import RecordFlow.Regex.Syntax

/-! # Automata

Expressions without references and look-around are matched by a finite
automaton. Its states are run in parallel over the text, in the order of
preference of the alternatives, so the time is bounded by the product of the
sizes of the automaton and the text. The threads carry the ends of the groups.
-/

namespace RecordFlow.Regex

abbrev Subject := Array Char

namespace Subject

def isWordAt (s : Subject) (position : Nat) : Bool :=
  match s[position]? with
  | some c => Unicode.isWordCharacter c
  | none => false

def isWordBefore (s : Subject) (position : Nat) : Bool :=
  position != 0 && s.isWordAt (position - 1)

end Subject

def Assertion.holds (a : Assertion) (s : Subject) (position : Nat) : Bool :=
  match a with
  | textStart => position == 0
  | textEnd => position == s.size
  | lineStart => position == 0 || s[position - 1]? == some '\n'
  | lineEnd => position == s.size || s[position]? == some '\n'
  | wordBoundary => s.isWordBefore position != s.isWordAt position
  | noWordBoundary => s.isWordBefore position == s.isWordAt position
  | wordStart => !s.isWordBefore position && s.isWordAt position
  | wordEnd => s.isWordBefore position && !s.isWordAt position

/-- One state. A fork prefers its first successor. -/
inductive State where
  | accept
  | step (s : CharSet) (next : Nat)
  | check (a : Assertion) (next : Nat)
  | mark (slot : Nat) (next : Nat)
  | fork (first second : Nat)

abbrev Automaton := Array State

namespace Automaton

def push (states : Automaton) (state : State) : Nat × Automaton :=
  (states.size, Array.push states state)

/-- The fork between going on with `body` and leaving for `next`. -/
def choice (greedy : Bool) (body next : Nat) : State :=
  if greedy then .fork body next else .fork next body

/-- Repeats a construction a number of times, each time in front of the last one. -/
def chain (build : Nat → Automaton → Nat × Automaton) : Nat → Nat → Automaton → Nat × Automaton
  | 0, next, states => (next, states)
  | count + 1, next, states =>
    let (entry, states) := build next states
    chain build count entry states

def star (greedy : Bool) (build : Nat → Automaton → Nat × Automaton) (next : Nat)
    (states : Automaton) : Nat × Automaton :=
  let (loop, states) := states.push (.fork next next)
  let (entry, states) := build loop states
  (loop, states.setIfInBounds loop (choice greedy entry next))

/-- Up to a number of repetitions, each of them optional inside the one before. -/
def optional (greedy : Bool) (build : Nat → Automaton → Nat × Automaton) (exit : Nat) :
    Nat → Nat → Automaton → Nat × Automaton
  | 0, next, states => (next, states)
  | count + 1, next, states =>
    let (entry, states) := build next states
    let (fork, states) := states.push (choice greedy entry exit)
    optional greedy build exit count fork states

def literalSet (c : Char) (ignoreCase : Bool) : CharSet := .foldIf ignoreCase (.single c)

def anySet (newline : Bool) : CharSet :=
  if newline then .everything else .complement (.single '\n')

mutual

/-- Puts the states of an expression in front of the state `next` and gives their entry. -/
def build (e : Expr) (next : Nat) (states : Automaton) : Nat × Automaton :=
  match e with
  | .any newline => states.push (.step (anySet newline) next)
  | .literal c ignoreCase => states.push (.step (literalSet c ignoreCase) next)
  | .set s => states.push (.step s next)
  | .assertion a => states.push (.check a next)
  | .concat parts => buildAll parts next states
  | .alt branches => buildAny branches next states
  | .group index body =>
    let (close, states) := states.push (.mark (2 * index + 1) next)
    let (entry, states) := build body close states
    states.push (.mark (2 * index) entry)
  | .repetition body least most greedy =>
    let (entry, states) :=
      match most with
      | none => star greedy (build body) next states
      | some most => optional greedy (build body) next (most - least) next states
    chain (build body) least entry states
  | _ => (next, states)

def buildAll (parts : List Expr) (next : Nat) (states : Automaton) : Nat × Automaton :=
  match parts with
  | [] => (next, states)
  | part :: parts =>
    let (entry, states) := buildAll parts next states
    build part entry states

def buildAny (branches : List Expr) (next : Nat) (states : Automaton) : Nat × Automaton :=
  match branches with
  | [] => (next, states)
  | [branch] => build branch next states
  | branch :: branches =>
    let (second, states) := buildAny branches next states
    let (first, states) := build branch next states
    states.push (.fork first second)

end

/-- The automaton of an expression, with its entry. State zero accepts. -/
def ofExpr (e : Expr) : Nat × Automaton := build e 0 #[.accept]

/-- A place where a thread has been: a state, with the ends of groups on the way to it. -/
structure Thread where
  state : Nat
  slots : Array (Option Nat)

/-- The threads at one position: those that wait for a character, in order of preference, and
whether one of them has accepted, with what it carried. Threads after an accepting one are dropped. -/
structure Front where
  visited : Array Bool
  threads : Array Thread
  accepted : Option (Array (Option Nat))

/-- Follows the states that take no character. The depth bounds the way through states that have
not been visited. -/
def follow (states : Automaton) (s : Subject) (position : Nat) :
    Nat → Nat → Array (Option Nat) → Front → Front
  | 0, _, _, front => front
  | depth + 1, state, slots, front =>
    if front.accepted.isSome || (front.visited[state]?).getD true then front
    else
      let front := { front with visited := front.visited.setIfInBounds state true }
      match states[state]? with
      | none => front
      | some .accept => { front with accepted := some slots }
      | some (.step _ _) => { front with threads := front.threads.push ⟨state, slots⟩ }
      | some (.check a next) =>
        if a.holds s position then follow states s position depth next slots front else front
      | some (.mark slot next) =>
        follow states s position depth next (slots.setIfInBounds slot (some position)) front
      | some (.fork first second) =>
        follow states s position depth second slots
          (follow states s position depth first slots front)

def emptyFront (states : Automaton) : Front := ⟨Array.replicate states.size false, #[], none⟩

def advance (states : Automaton) (s : Subject) (position : Nat) (c : Char)
    (threads : Array Thread) : Front :=
  threads.foldl (fun front (thread : Thread) =>
    match states[thread.state]? with
    | some (.step set next) =>
      if set.contains c then
        follow states s (position + 1) (states.size + 1) next thread.slots front
      else front
    | _ => front) (emptyFront states)

/-- Whether the automaton accepts some part of the text from a position on, `count` characters from
its end. A new thread starts at every position. -/
def findsFrom (states : Automaton) (entry : Nat) (s : Subject) : Nat → Array Thread → Bool
  | count, threads =>
    let position := s.size - count
    let front := follow states s position (states.size + 1) entry #[]
      { emptyFront states with
        visited := threads.foldl (fun v t => v.setIfInBounds t.state true)
          (Array.replicate states.size false)
        threads }
    if front.accepted.isSome then true
    else
      match count with
      | 0 => false
      | count + 1 =>
        match s[position]? with
        | none => false
        | some c =>
          let next := advance states s position c front.threads
          if next.accepted.isSome then true else findsFrom states entry s count next.threads

def finds (states : Automaton) (entry : Nat) (s : Subject) : Bool :=
  findsFrom states entry s s.size #[]

/-- Runs the threads of one position over the text that is left, `count` characters, and keeps the
end and the groups of the preferred match so far. -/
def preferred (states : Automaton) (s : Subject) (best : Option (Nat × Array (Option Nat))) :
    Nat → Front → Option (Nat × Array (Option Nat))
  | count, front =>
    let position := s.size - count
    let best := match front.accepted with
      | some slots => some (position, slots)
      | none => best
    match count with
    | 0 => best
    | count + 1 =>
      if front.threads.isEmpty then best
      else
        match s[position]? with
        | none => best
        | some c => preferred states s best count (advance states s position c front.threads)

/-- The preferred match that begins at a position: its end and the ends of its groups. -/
def matchAt (states : Automaton) (entry slotCount : Nat) (s : Subject) (position : Nat) :
    Option (Nat × Array (Option Nat)) :=
  preferred states s none (s.size - position)
    (follow states s position (states.size + 1) entry (Array.replicate slotCount none)
      (emptyFront states))

end Automaton

end RecordFlow.Regex
