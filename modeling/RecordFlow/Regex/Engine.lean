import RecordFlow.Engine
import RecordFlow.Regex.Machine

/-! # A backtracking engine

The engine that programs run with: an automaton where that is enough, and a machine
that goes back where it is not.
-/

namespace RecordFlow.Regex

scoped instance engine : Engine where
  compile? expression := (compile? expression).map isMatch

theorem isSome_engine (expression : String) :
    (Engine.compile? expression).isSome = (compile? expression).isSome := Option.isSome_map

end RecordFlow.Regex
