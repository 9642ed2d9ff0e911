import RecordFlow.Regex.Automaton
import RecordFlow.Regex.Reader

/-! # Programs

Expressions that need backtracking become programs for a machine with a stack
of alternatives. Parts of an expression that a finite automaton can match are
handed to one, where the machine would never have to come back into them.
-/

namespace RecordFlow.Regex

inductive Instruction where
  | finish
  | any
  | anyButNewline
  | literal (text : List Char)
  | check (a : Assertion)
  /-- Goes on at the first place and keeps the second as an alternative. -/
  | fork (first second : Nat)
  | jump (target : Nat)
  /-- Stores the position. -/
  | save (slot : Nat)
  /-- Stores zero. -/
  | clear (slot : Nat)
  /-- Goes to a stored position. -/
  | restore (slot : Nat)
  /-- Counts repetitions and leaves for `exit`. -/
  | counted (greedy : Bool) (least : Nat) (most : Nat) (exit counter : Nat)
  /-- The same without an upper bound, for a body that can be empty; an empty repetition fails. -/
  | guarded (greedy : Bool) (least : Nat) (exit counter last : Nat)
  | goBack (count : Nat)
  | failNegative
  | backref (group : Nat)
  | matched (group : Nat)
  | beginAtomic
  | endAtomic
  | automaton (states : Automaton) (entry : Nat) (firstGroup lastGroup : Nat)
  | searchStart

/-- A program under construction. Slots below `slots` are in use. -/
structure Program where
  code : Array Instruction
  slots : Nat

namespace Program

def here (p : Program) : Nat := p.code.size

def emit (p : Program) (i : Instruction) : Program := { p with code := p.code.push i }

def set (p : Program) (place : Nat) (i : Instruction) : Program :=
  { p with code := p.code.setIfInBounds place i }

def newSlot (p : Program) : Nat × Program := (p.slots, { p with slots := p.slots + 1 })

end Program

/-- The largest automaton that is built, in states. -/
def automatonLimit : Nat := 327680

mutual

def Expr.groupCount : Expr → Nat
  | .group _ body => body.groupCount + 1
  | .concat parts => Expr.sumGroupCount parts
  | .alt branches => Expr.sumGroupCount branches
  | .repetition body .. => body.groupCount
  | .look _ body => body.groupCount
  | .atomic body => body.groupCount
  | .conditional a b c => a.groupCount + b.groupCount + c.groupCount
  | _ => 0

def Expr.sumGroupCount : List Expr → Nat
  | [] => 0
  | e :: es => e.groupCount + Expr.sumGroupCount es

end

mutual

def Expr.firstGroup? : Expr → Option Nat
  | .group index _ => some index
  | .concat parts => Expr.firstGroupOf? parts
  | .alt branches => Expr.firstGroupOf? branches
  | .repetition body .. => body.firstGroup?
  | .look _ body => body.firstGroup?
  | .atomic body => body.firstGroup?
  | .conditional a b c => a.firstGroup? <|> b.firstGroup? <|> c.firstGroup?
  | _ => none

def Expr.firstGroupOf? : List Expr → Option Nat
  | [] => none
  | e :: es => e.firstGroup? <|> Expr.firstGroupOf? es

end

/-- Whether an expression can be given to an automaton as it stands. -/
def Expr.fitsAutomaton (e : Expr) : Bool :=
  (e.weight automatonLimit).isSome && !e.hasEmptyBounds

mutual

/-- The characters of an expression that is a sequence of exact characters. -/
def Expr.exactText? : Expr → Option (List Char)
  | .literal c false => some [c]
  | .concat parts => Expr.exactTexts? parts
  | _ => none

def Expr.exactTexts? : List Expr → Option (List Char)
  | [] => some []
  | e :: es =>
    match e.exactText?, Expr.exactTexts? es with
    | some text, some texts => some (text ++ texts)
    | _, _ => none

end

/-- Emits an automaton for a sequence of expressions, or their characters if they are exact. -/
def delegate (parts : List Expr) (p : Program) : Option Program :=
  match parts with
  | [] => some p
  | parts =>
    let e := Expr.concat parts
    if !e.fitsAutomaton then none
    else
      match e.exactText? with
      | some text => some (p.emit (.literal text))
      | none =>
        let (entry, states) := Automaton.ofExpr e
        let first := e.firstGroup?.getD 0
        some (p.emit (.automaton states entry first (first + e.groupCount)))

/-- Whether an expression can be given to an automaton without a way back into it. -/
def isFixed (referred : List Nat) (e : Expr) : Bool := e.constSize && !e.isHard referred

def tailLength (test : Expr → Bool) (parts : List Expr) : Nat :=
  (parts.reverse.takeWhile test).length

/-- Steps back over the size of a look-behind, which must be constant. -/
def emitStepBack (kind : Look) (body : Expr) (p : Program) : Option Program :=
  if kind.behind then
    if body.constSize then some (p.emit (.goBack body.minSize)) else none
  else some p

mutual

/-- Emits the code of an expression. `hard` tells that something after it may have to come back into
it. -/
def compile (referred : List Nat) (hard : Bool) (e : Expr) (p : Program) : Option Program :=
  if !hard && !e.isHard referred then delegate [e] p
  else
    match e with
    | .empty => some p
    | .any newline => some (p.emit (if newline then .any else .anyButNewline))
    | .literal c false => some (p.emit (.literal [c]))
    | .literal c true => delegate [.literal c true] p
    | .set s => delegate [.set s] p
    | .assertion a => some (p.emit (.check a))
    | .concat parts =>
      let start := (parts.takeWhile (isFixed referred)).length
      let rest := parts.drop start
      let tail :=
        if hard then tailLength (isFixed referred) rest
        else tailLength (fun e => !e.isHard referred) rest
      match delegate (parts.take start) p with
      | none => none
      | some p =>
        match compileRange referred start (parts.length - tail) 0 parts p with
        | none => none
        | some p => delegate (parts.drop (parts.length - tail)) p
    | .alt branches => compileBranches referred hard branches p
    | .group index body =>
      (compile referred hard body (p.emit (.save (2 * index)))).map (·.emit (.save (2 * index + 1)))
    | .repetition body least most greedy =>
      compileRepetition referred (hard || body.isHard referred) hard body least most greedy p
    | .look kind body => compileLook referred kind body p
    | .atomic body =>
      (compile referred false body (p.emit .beginAtomic)).map (·.emit .endAtomic)
    | .backref group => some (p.emit (.backref group))
    | .matched group => some (p.emit (.matched group))
    | .conditional condition whenTrue whenFalse =>
      let p := p.emit .beginAtomic
      let fork := p.here
      match compile referred hard condition (p.emit (.fork (fork + 1) 0)) with
      | none => none
      | some p =>
        match compile referred hard whenTrue (p.emit .endAtomic) with
        | none => none
        | some p =>
          let leave := p.here
          let p := p.emit (.jump 0)
          let p := p.set fork (.fork (fork + 1) p.here)
          match compile referred hard whenFalse p with
          | none => none
          | some p => some (p.set leave (.jump p.here))
    | .keepOut => some (p.emit (.save 0))
    | .searchStart => some (p.emit .searchStart)
termination_by (sizeOf e, 0)

/-- Emits the expressions of a sequence from index `first` up to `last`, the current one having
index `index`. -/
def compileRange (referred : List Nat) (first last index : Nat) (parts : List Expr) (p : Program) :
    Option Program :=
  match parts with
  | [] => some p
  | e :: es =>
    if first ≤ index ∧ index < last then
      match compile referred true e p with
      | none => none
      | some p => compileRange referred first last (index + 1) es p
    else compileRange referred first last (index + 1) es p
termination_by (sizeOf parts, 0)

def compileBranches (referred : List Nat) (hard : Bool) (branches : List Expr) (p : Program) :
    Option Program :=
  match branches with
  | [] => some p
  | [e] => compile referred hard e p
  | e :: f :: es =>
    let fork := p.here
    match compile referred hard e (p.emit (.fork (fork + 1) 0)) with
    | none => none
    | some p =>
      let leave := p.here
      let p := p.emit (.jump 0)
      let p := p.set fork (.fork (fork + 1) p.here)
      match compileBranches referred hard (f :: es) p with
      | none => none
      | some p => some (p.set leave (.jump p.here))
termination_by (sizeOf branches, 0)

def compileRepetition (referred : List Nat) (hard optionalHard : Bool) (body : Expr) (least : Nat)
    (most : Option Nat) (greedy : Bool) (p : Program) : Option Program :=
  let start := p.here
  let choice (inside outside : Nat) : Instruction :=
    if greedy then .fork inside outside else .fork outside inside
  match least, most with
  | 0, some 1 =>
    (compile referred optionalHard body (p.emit (.fork 0 0))).map fun p =>
      p.set start (choice (start + 1) p.here)
  | least, some most =>
    let (counter, p) := p.newSlot
    let p := p.emit (.clear counter)
    let start := p.here
    (compile referred hard body (p.emit .finish)).map fun p =>
      let p := p.emit (.jump start)
      p.set start (.counted greedy least most p.here counter)
  | least, none =>
    if body.minSize = 0 then
      let (counter, p) := p.newSlot
      let (last, p) := p.newSlot
      let p := p.emit (.clear counter)
      let start := p.here
      (compile referred hard body (p.emit .finish)).map fun p =>
        let p := p.emit (.jump start)
        p.set start (.guarded greedy least p.here counter last)
    else
      match least with
      | 0 =>
        (compile referred hard body (p.emit (.fork 0 0))).map fun p =>
          let p := p.emit (.jump start)
          p.set start (choice (start + 1) p.here)
      | 1 =>
        (compile referred hard body p).map fun p => p.emit (choice start (p.here + 1))
      | least =>
        let (counter, p) := p.newSlot
        let p := p.emit (.clear counter)
        let start := p.here
        (compile referred hard body (p.emit .finish)).map fun p =>
          let p := p.emit (.jump start)
          p.set start (.counted greedy least 0xffffffffffffffff p.here counter)
termination_by (sizeOf body, 1)

/-- Emits a look-around. One that looks behind at alternatives of different sizes is taken apart
into one look for each of them. -/
def compileLook (referred : List Nat) (kind : Look) (body : Expr) (p : Program) : Option Program :=
  match body with
  | .alt branches =>
    if kind.behind && !body.constSize then compileLooks referred kind branches p
    else compileSingleLook referred kind (.alt branches) p
  | body => compileSingleLook referred kind body p
termination_by (sizeOf body, 2)

/-- Emits one look for each of several expressions: all of them must hold if they are negative, and
one of them otherwise. -/
def compileLooks (referred : List Nat) (kind : Look) (bodies : List Expr) (p : Program) :
    Option Program :=
  match bodies with
  | [] => some p
  | [e] => compileSingleLook referred kind e p
  | e :: f :: es =>
    if kind.negative then
      match compileSingleLook referred kind e p with
      | none => none
      | some p => compileLooks referred kind (f :: es) p
    else
      let fork := p.here
      match compileSingleLook referred kind e (p.emit (.fork (fork + 1) 0)) with
      | none => none
      | some p =>
        let leave := p.here
        let p := p.emit (.jump 0)
        let p := p.set fork (.fork (fork + 1) p.here)
        match compileLooks referred kind (f :: es) p with
        | none => none
        | some p => some (p.set leave (.jump p.here))
termination_by (sizeOf bodies, 0)

def compileSingleLook (referred : List Nat) (kind : Look) (body : Expr) (p : Program) :
    Option Program :=
  if kind.negative then
    let fork := p.here
    match emitStepBack kind body (p.emit (.fork (fork + 1) 0)) with
    | none => none
    | some p =>
      match compile referred false body p with
      | none => none
      | some p =>
        let p := p.emit .failNegative
        some (p.set fork (.fork (fork + 1) p.here))
  else
    let (slot, p) := p.newSlot
    match emitStepBack kind body (p.emit (.save slot)) with
    | none => none
    | some p =>
      match compile referred false body p with
      | none => none
      | some p => some (p.emit (.restore slot))
termination_by (sizeOf body, 1)

end

/-- The program that searches for an expression at every position, from the start of the text. -/
def searchProgram (referred : List Nat) (groups : Nat) (e : Expr) : Option Program :=
  let start : Program := ⟨#[.fork 3 1, .any, .jump 0], 2 * (groups + 1)⟩
  (compile referred true (.group 0 e) start).map (·.emit .finish)

end RecordFlow.Regex
