/-! # Regular expressions from outside

An engine compiles the text of a regular expression, or refuses it, and tells of
each text whether a compiled expression matches some part of it. Nothing else
is known of an engine.
-/

namespace RecordFlow

class Engine where
  /-- The texts that an expression matches, if it is accepted. -/
  compile? (expression : String) : Option (String → Bool)

end RecordFlow
