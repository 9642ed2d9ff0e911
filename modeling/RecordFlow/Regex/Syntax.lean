import RecordFlow.Regex.CharSet

/-! # Regular expressions

The syntax trees of regular expressions, with what is known of an expression
before it is matched: how many characters it takes at least, whether every match
takes as many, and whether it asks for more than a finite automaton can do.
-/

namespace RecordFlow.Regex

inductive Assertion where
  | textStart
  | textEnd
  | lineStart
  | lineEnd
  | wordBoundary
  | noWordBoundary
  | wordStart
  | wordEnd
  deriving DecidableEq, Repr

def Assertion.isWordBoundary : Assertion → Bool
  | wordBoundary | noWordBoundary | wordStart | wordEnd => true
  | _ => false

/-- Which side of the position a look-around inspects, and whether it must fail there. -/
structure Look where
  behind : Bool
  negative : Bool
  deriving DecidableEq, Repr

inductive Expr where
  | empty
  | any (newline : Bool)
  | assertion (a : Assertion)
  | literal (c : Char) (ignoreCase : Bool)
  | set (s : CharSet)
  | concat (parts : List Expr)
  | alt (branches : List Expr)
  | group (index : Nat) (body : Expr)
  | repetition (body : Expr) (least : Nat) (most : Option Nat) (greedy : Bool)
  | look (kind : Look) (body : Expr)
  | atomic (body : Expr)
  | backref (group : Nat)
  | matched (group : Nat)
  | conditional (condition whenTrue whenFalse : Expr)
  | keepOut
  | searchStart

namespace Expr

def isEmpty : Expr → Bool
  | empty => true
  | _ => false

def isRepeatable : Expr → Bool
  | look .. | empty | assertion _ => false
  | _ => true

mutual

def minSize : Expr → Nat
  | any _ | literal .. | set _ => 1
  | concat parts => sumMinSize parts
  | alt branches => leastMinSize branches
  | group _ body => minSize body
  | repetition body least _ _ => minSize body * least
  | atomic body => minSize body
  | conditional condition whenTrue whenFalse =>
    minSize condition + min (minSize whenTrue) (minSize whenFalse)
  | empty | assertion _ | look .. | backref _ | matched _ | keepOut | searchStart => 0

def sumMinSize : List Expr → Nat
  | [] => 0
  | e :: es => minSize e + sumMinSize es

def leastMinSize : List Expr → Nat
  | [] => 0
  | [e] => minSize e
  | e :: es => min (minSize e) (leastMinSize es)

end

mutual

def constSize : Expr → Bool
  | concat parts => allConstSize parts
  | alt branches => branchesConstSize branches
  | group _ body => constSize body
  | repetition body least most _ => constSize body && most == some least
  | atomic body => constSize body
  | backref _ => false
  | conditional condition whenTrue whenFalse =>
    constSize condition && constSize whenTrue && constSize whenFalse &&
      minSize condition + minSize whenTrue == minSize whenFalse
  | empty | any _ | assertion _ | literal .. | set _ | look .. | matched _ | keepOut
  | searchStart => true

def allConstSize : List Expr → Bool
  | [] => true
  | e :: es => constSize e && allConstSize es

def branchesConstSize : List Expr → Bool
  | [] => true
  | [e] => constSize e
  | e :: f :: es => constSize e && minSize e == minSize f && branchesConstSize (f :: es)

end

mutual

/-- Whether the expression needs backtracking, given the groups that are referred to. -/
def isHard (referred : List Nat) : Expr → Bool
  | assertion a => a.isWordBoundary
  | concat parts => anyHard referred parts
  | alt branches => anyHard referred branches
  | group index body => isHard referred body || referred.contains index
  | repetition body _ _ _ => isHard referred body
  | look .. | atomic _ | backref _ | matched _ | conditional .. | keepOut | searchStart => true
  | empty | any _ | literal .. | set _ => false

def anyHard (referred : List Nat) : List Expr → Bool
  | [] => false
  | e :: es => isHard referred e || anyHard referred es

end

def setWeight (s : CharSet) : Nat := 1 + 2 * s.rangeCount

mutual

/-- About how many automaton states the expression takes once its repetitions are written out.
`none` stands for more than `limit`. -/
def weight (limit : Nat) : Expr → Option Nat
  | any _ => some 9
  | literal _ ignoreCase => some (if ignoreCase then 2 else 1)
  | set s => some (setWeight s)
  | concat parts => sumWeight limit parts
  | alt branches => (sumWeight limit branches).map (· + 1)
  | group _ body => (weight limit body).map (· + 2)
  | repetition body least most _ =>
    match weight limit body with
    | none => none
    | some w =>
      let copies := max 1 ((most.getD least).max least)
      if limit < w * copies then none else some (w * copies + 1)
  | _ => some 1

def sumWeight (limit : Nat) : List Expr → Option Nat
  | [] => some 0
  | e :: es =>
    match weight limit e, sumWeight limit es with
    | some v, some w => if limit < v + w then none else some (v + w)
    | _, _ => none

end

def hasEmptyBounds : Expr → Bool
  | concat parts => parts.attach.any fun ⟨e, _⟩ => e.hasEmptyBounds
  | alt branches => branches.attach.any fun ⟨e, _⟩ => e.hasEmptyBounds
  | group _ body => body.hasEmptyBounds
  | repetition body least most _ =>
    body.hasEmptyBounds || (match most with | some n => decide (n < least) | none => false)
  | _ => false

end Expr

end RecordFlow.Regex
