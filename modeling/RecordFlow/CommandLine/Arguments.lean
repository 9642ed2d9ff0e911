import RecordFlow.Text.Basic

/-! # Arguments of the command line

Options have a long form and some a short one; short flags may be written
together. The value of an option follows it, after an equals sign or as the next
argument. Every option but the verbosity may be given once. The first argument
that cannot be read, or that asks for help or the version, ends the reading.
-/

namespace RecordFlow.CommandLine

structure Arguments where
  verbosity : Nat
  config : Option String
  listNodes : Bool
  benchmark : Bool
  resourceType : Option String
  itemsKey : Option String
  manifest : Option String
  input : Option String
  deriving DecidableEq, Repr

/-- Why reading the arguments ends early. -/
inductive Halt where
  | help
  | version
  | usage
  deriving DecidableEq, Repr

inductive Flag where
  | verbose | listNodes | benchmark | help | version
  deriving DecidableEq, Repr

inductive Valued where
  | config | resourceType | itemsKey
  deriving DecidableEq, Repr

inductive Switch where
  | flag (f : Flag)
  | valued (v : Valued)
  deriving DecidableEq, Repr

namespace Switch

def ofLong? : String → Option Switch
  | "verbose" => some (flag .verbose)
  | "config" => some (valued .config)
  | "list-nodes" => some (flag .listNodes)
  | "benchmark" => some (flag .benchmark)
  | "resource-type" => some (valued .resourceType)
  | "items-key" => some (valued .itemsKey)
  | "help" => some (flag .help)
  | "version" => some (flag .version)
  | _ => none

def ofShort? : Char → Option Switch
  | 'v' => some (flag .verbose)
  | 'c' => some (valued .config)
  | 'b' => some (flag .benchmark)
  | 'h' => some (flag .help)
  | 'V' => some (flag .version)
  | _ => none

end Switch

namespace Arguments

def empty : Arguments := ⟨0, none, false, false, none, none, none, none⟩

def addFlag (a : Arguments) : Flag → Except Halt Arguments
  | .verbose => .ok { a with verbosity := a.verbosity + 1 }
  | .listNodes => if a.listNodes then .error .usage else .ok { a with listNodes := true }
  | .benchmark => if a.benchmark then .error .usage else .ok { a with benchmark := true }
  | .help => .error .help
  | .version => .error .version

/-- Takes an option with its value. A path is not empty. -/
def addValue (a : Arguments) (value : String) : Valued → Except Halt Arguments
  | .config =>
    if a.config.isSome ∨ value.isEmpty then .error .usage else .ok { a with config := value }
  | .resourceType =>
    if a.resourceType.isSome then .error .usage else .ok { a with resourceType := value }
  | .itemsKey => if a.itemsKey.isSome then .error .usage else .ok { a with itemsKey := value }

/-- Takes an argument that is no option: the manifest first, then the input. -/
def addPath (a : Arguments) (path : String) : Except Halt Arguments :=
  if path.isEmpty then .error .usage
  else if a.manifest.isNone then .ok { a with manifest := path }
  else if a.input.isNone then .ok { a with input := path }
  else .error .usage

end Arguments

inductive Form where
  /-- Two dashes alone: what follows holds no options. -/
  | separator
  | long (name : String) (value : Option String)
  | short (letters : List Char)
  | plain (text : String)
  deriving DecidableEq, Repr

def longForm (text : List Char) : Form :=
  match text.dropWhile (· ≠ '=') with
  | [] => .long (String.ofList text) none
  | _ :: value => .long (String.ofList (text.takeWhile (· ≠ '='))) (some (String.ofList value))

def formOf (argument : String) : Form :=
  match argument.toList with
  | ['-', '-'] => .separator
  | '-' :: '-' :: rest => longForm rest
  | '-' :: c :: rest => .short (c :: rest)
  | _ => .plain argument

/-- A value in the next argument, which must not look like an option. -/
def nextValue : List String → Except Halt (String × List String)
  | [] => .error .usage
  | argument :: rest =>
    match formOf argument with
    | .plain value => .ok (value, rest)
    | _ => .error .usage

theorem length_nextValue {value : String} {arguments rest : List String}
    (h : nextValue arguments = .ok (value, rest)) : rest.length ≤ arguments.length := by
  cases arguments with
  | nil => cases h
  | cons argument arguments =>
    simp only [nextValue] at h
    split at h
    · cases h; simp
    · cases h

def attachedValue : List Char → Option String
  | [] => none
  | '=' :: value => some (String.ofList value)
  | value => some (String.ofList value)

/-- Reads the letters of short options. An option with a value takes the letters that are left, or
the next argument. -/
def readLetters (a : Arguments) (arguments : List String) :
    List Char → Except Halt (Arguments × List String)
  | [] => .ok (a, arguments)
  | c :: letters =>
    match Switch.ofShort? c with
    | none => .error .usage
    | some (.flag f) =>
      match a.addFlag f with
      | .error e => .error e
      | .ok a => readLetters a arguments letters
    | some (.valued v) =>
      match attachedValue letters with
      | some value => (a.addValue value v).map (·, arguments)
      | none =>
        match nextValue arguments with
        | .error e => .error e
        | .ok (value, rest) => (a.addValue value v).map (·, rest)

def readLong (a : Arguments) (arguments : List String) (name : String) (value? : Option String) :
    Except Halt (Arguments × List String) :=
  match Switch.ofLong? name, value? with
  | none, _ => .error .usage
  | some (.flag f), none => (a.addFlag f).map (·, arguments)
  | some (.flag _), some _ => .error .usage
  | some (.valued v), some value => (a.addValue value v).map (·, arguments)
  | some (.valued v), none =>
    match nextValue arguments with
    | .error e => .error e
    | .ok (value, rest) => (a.addValue value v).map (·, rest)

def readOne (a : Arguments) (form : Form) (arguments : List String) :
    Except Halt (Arguments × List String) :=
  match form with
  | .separator => (arguments.foldlM Arguments.addPath a).map (·, [])
  | .long name value? => readLong a arguments name value?
  | .short letters => readLetters a arguments letters
  | .plain path => (a.addPath path).map (·, arguments)

theorem rest_of_map {α : Type} {x : Except Halt α} {arguments : List String}
    {p : α × List String} (h : x.map (·, arguments) = .ok p) : p.2 = arguments := by
  cases x with
  | error e => cases h
  | ok y => cases h; rfl

theorem length_readLetters {a : Arguments} {arguments letters}
    {p : Arguments × List String} (h : readLetters a arguments letters = .ok p) :
    p.2.length ≤ arguments.length := by
  fun_induction readLetters a arguments letters with
  | case1 => cases h; exact Nat.le_refl _
  | case2 => cases h
  | case3 => cases h
  | case4 _ _ _ _ _ _ _ ih => exact ih h
  | case5 => exact Nat.le_of_eq (congrArg List.length (rest_of_map h))
  | case6 => cases h
  | case7 =>
    rw [rest_of_map h]
    exact length_nextValue ‹_›

theorem length_readLong {a : Arguments} {arguments name value?}
    {p : Arguments × List String} (h : readLong a arguments name value? = .ok p) :
    p.2.length ≤ arguments.length := by
  simp only [readLong] at h
  split at h
  · cases h
  · exact Nat.le_of_eq (congrArg List.length (rest_of_map h))
  · cases h
  · exact Nat.le_of_eq (congrArg List.length (rest_of_map h))
  · split at h
    · cases h
    · rw [rest_of_map h]
      exact length_nextValue ‹_›

theorem length_readOne {a : Arguments} {form arguments}
    {p : Arguments × List String} (h : readOne a form arguments = .ok p) :
    p.2.length ≤ arguments.length := by
  cases form with
  | separator => simp [rest_of_map h]
  | long name value? => exact length_readLong h
  | short letters => exact length_readLetters h
  | plain path => exact Nat.le_of_eq (congrArg List.length (rest_of_map h))

def readAll (a : Arguments) : List String → Except Halt Arguments
  | [] => .ok a
  | argument :: arguments =>
    match _h : readOne a (formOf argument) arguments with
    | .error e => .error e
    | .ok (a, rest) => readAll a rest
termination_by arguments => arguments.length
decreasing_by exact Nat.lt_succ_of_le (length_readOne _h)

/-- Reads the arguments of the program; a manifest must be there unless nodes are listed. -/
def Arguments.read (arguments : List String) : Except Halt Arguments :=
  match readAll .empty arguments with
  | .error e => .error e
  | .ok a => if a.manifest.isNone ∧ ¬ a.listNodes then .error .usage else .ok a

end RecordFlow.CommandLine
