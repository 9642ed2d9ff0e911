import RecordFlow.Regex.Program

/-! # Running programs

The machine runs a program over a text and keeps the alternatives it has not
tried on a stack. When an instruction fails it returns to the last alternative.
A search that returns too often, or keeps too many alternatives, is given up.
-/

namespace RecordFlow.Regex

/-- How often a search may return to an alternative. -/
def backtrackLimit : Nat := 1000000

/-- How many alternatives may be kept at a time. -/
def stackLimit : Nat := 1000000

namespace Machine

structure Memory where
  place : Nat
  position : Nat
  slots : Array (Option Nat)
  /-- Heights of the stack at the beginnings of the open atomic groups. -/
  heights : List Nat

structure Configuration where
  now : Memory
  stack : List Memory
  height : Nat
  returns : Nat

inductive Verdict where
  | running (c : Configuration)
  | finished (found : Bool)

def Configuration.fail (c : Configuration) : Verdict :=
  match c.stack with
  | [] => .finished false
  | now :: stack =>
    if backtrackLimit ≤ c.returns then .finished false
    else .running ⟨now, stack, c.height - 1, c.returns + 1⟩

def Configuration.keep (c : Configuration) (place : Nat) : Option Configuration :=
  if stackLimit ≤ c.height then none
  else some { c with stack := { c.now with place } :: c.stack, height := c.height + 1 }

def Configuration.goTo (c : Configuration) (place : Nat) : Configuration :=
  { c with now := { c.now with place } }

def Configuration.next (c : Configuration) (position : Nat) : Configuration :=
  { c with now := { c.now with place := c.now.place + 1, position } }

def Configuration.store (c : Configuration) (slot value : Nat) : Configuration :=
  { c with now := { c.now with slots := c.now.slots.setIfInBounds slot (some value) } }

def Configuration.load (c : Configuration) (slot : Nat) : Option Nat :=
  (c.now.slots[slot]?).getD none

def Configuration.cut (c : Configuration) (height : Nat) : Configuration :=
  { c with stack := c.stack.drop (c.height - height), height := min height c.height }

/-- Drops the alternatives above the last one at a place, and that one too. -/
def dropThrough (place : Nat) : List Memory → Nat → List Memory × Nat
  | [], height => ([], height)
  | m :: stack, height =>
    if m.place = place then (stack, height - 1) else dropThrough place stack (height - 1)

def hasText (s : Subject) : Nat → List Char → Bool
  | _, [] => true
  | position, c :: text => s[position]? == some c && hasText s (position + 1) text

def samePart (s : Subject) (first second length : Nat) : Bool :=
  second + length ≤ s.size &&
    (List.range length).all fun i => s[first + i]? == s[second + i]?

/-- Goes on behind a repetition's head, and keeps or takes the way out once enough repetitions have
been counted. -/
def repeatOrLeave (c : Configuration) (greedy enough : Bool) (exit : Nat) : Verdict :=
  let inside := c.now.place + 1
  if enough then
    let (first, second) := if greedy then (inside, exit) else (exit, inside)
    match c.keep second with
    | some c => .running (c.goTo first)
    | none => .finished false
  else .running (c.goTo inside)

def step (code : Array Instruction) (s : Subject) (c : Configuration) : Verdict :=
  let position := c.now.position
  match code[c.now.place]? with
  | none => .finished false
  | some .finish => .finished true
  | some .any => if position < s.size then .running (c.next (position + 1)) else c.fail
  | some .anyButNewline =>
    match s[position]? with
    | some ch => if ch = '\n' then c.fail else .running (c.next (position + 1))
    | none => c.fail
  | some (.literal text) =>
    if hasText s position text then .running (c.next (position + text.length)) else c.fail
  | some (.check a) => if a.holds s position then .running (c.next position) else c.fail
  | some (.fork first second) =>
    match c.keep second with
    | some c => .running (c.goTo first)
    | none => .finished false
  | some (.jump target) => .running (c.goTo target)
  | some (.save slot) => .running ((c.store slot position).next position)
  | some (.clear slot) => .running ((c.store slot 0).next position)
  | some (.restore slot) => .running (c.next ((c.load slot).getD position))
  | some (.counted greedy least most exit counter) =>
    let count := (c.load counter).getD 0
    if count = most then .running (c.goTo exit)
    else repeatOrLeave (c.store counter (count + 1)) greedy (least ≤ count) exit
  | some (.guarded greedy least exit counter last) =>
    let count := (c.load counter).getD 0
    if least < count ∧ c.load last = some position then c.fail
    else
      let c := c.store counter (count + 1)
      if least ≤ count then repeatOrLeave (c.store last position) greedy true exit
      else repeatOrLeave c greedy false exit
  | some (.goBack count) =>
    if count ≤ position then .running (c.next (position - count)) else c.fail
  | some .failNegative =>
    let (stack, height) := dropThrough (c.now.place + 1) c.stack c.height
    { c with stack, height }.fail
  | some (.backref group) =>
    match c.load (2 * group), c.load (2 * group + 1) with
    | some first, some last =>
      let length := last - first
      if samePart s first position length then .running (c.next (position + length)) else c.fail
    | _, _ => c.fail
  | some (.matched group) =>
    if (c.load (2 * group)).isSome then .running (c.next position) else c.fail
  | some .beginAtomic =>
    .running { c with now :=
      { c.now with place := c.now.place + 1, heights := c.height :: c.now.heights } }
  | some .endAtomic =>
    match c.now.heights with
    | [] => c.fail
    | height :: heights =>
      let c := c.cut height
      .running { c with now := { c.now with place := c.now.place + 1, heights } }
  | some (.automaton states entry firstGroup lastGroup) =>
    match Automaton.matchAt states entry (2 * lastGroup) s position with
    | none => c.fail
    | some (last, slots) =>
      let groups := List.range (2 * (lastGroup - firstGroup))
      let written := groups.foldl (fun (written : Array (Option Nat)) i =>
        let slot := 2 * firstGroup + i
        written.setIfInBounds slot ((slots[slot]?).getD none)) c.now.slots
      .running ({ c with now := { c.now with slots := written } }.next last)
  | some .searchStart => if position = 0 then .running (c.next position) else c.fail

def run (code : Array Instruction) (s : Subject) : Nat → Configuration → Bool
  | 0, _ => false
  | count + 1, c =>
    match step code s c with
    | .running c => run code s count c
    | .finished found => found

/-- More steps than a search takes before it is given up. -/
def stepLimit : Nat := 1000000000000

def finds (p : Program) (s : Subject) : Bool :=
  run p.code s stepLimit ⟨⟨0, 0, Array.replicate p.slots none, []⟩, [], 0, 0⟩

end Machine

end RecordFlow.Regex

namespace RecordFlow

/-- A compiled regular expression: an automaton if that is enough, else a program. -/
inductive Regex where
  | automaton (states : Regex.Automaton) (entry : Nat)
  | program (p : Regex.Program)

namespace Regex

def compile? (text : String) : Option Regex :=
  match Expr.ofText? text with
  | none => none
  | some (e, referred) =>
    if e.isHard referred then (searchProgram referred e.groupCount e).map .program
    else if e.fitsAutomaton then
      let (entry, states) := Automaton.ofExpr e
      some (.automaton states entry)
    else none

def isMatch (r : Regex) (text : String) : Bool :=
  let s : Subject := text.toList.toArray
  match r with
  | automaton states entry => Automaton.finds states entry s
  | program p => Machine.finds p s

end Regex

end RecordFlow
