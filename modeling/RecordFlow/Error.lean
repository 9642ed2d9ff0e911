import RecordFlow.Json.Basic
import RecordFlow.Literal.Reader

/-! # Errors

An error is the cause of a failure; its wording is a function of the cause.
Failures of reading a manifest are wrapped in layers that tell what was being
read, down to the cause that started them.
-/

namespace RecordFlow

inductive DeclarationFault where
  | literal (fault : Literal.LocatedFault)
  | unclosed
  | nameless
  deriving DecidableEq, Repr

def DeclarationFault.message : DeclarationFault → String
  | literal f => f.fault.message ++ " at offset " ++ toString f.offset
  | unclosed => "closing parenthesis must start its own line"
  | nameless => "declaration has no name"

/-- What a parameter has to be. -/
inductive Expectation where
  | string
  | number
  | count
  | boolean
  | pattern
  | strings
  | direction
  | comparison
  | aggregation
  | coarsening
  | binning
  deriving DecidableEq, Repr

def Expectation.name : Expectation → String
  | string => "string"
  | number => "number"
  | count => "non-negative integer"
  | boolean => "boolean"
  | pattern => "pattern"
  | strings => "array of strings"
  | direction => "ascending or descending"
  | comparison => "one of ===, !==, >, >=, <, <=, includes, not includes, matches"
  | aggregation => "count, sum, average, groupSum, groupAverage or histogramFrequency"
  | coarsening => "range or percent"
  | binning => "logarithmic or halfLogarithmic"

inductive DataFault where
  | sumOf (target : String) (found : Json.Kind)
  | rangeOf (found : Json.Kind)
  | percentOf (found : Json.Kind)
  | zeroMaximum
  deriving DecidableEq, Repr

def DataFault.message : DataFault → String
  | sumOf target found => "Cannot sum '" ++ target ++ "': found " ++ found.name
  | rangeOf found => "Can only perform range fuzz on numeric values, found " ++ found.name
  | percentOf found => "Can only perform percent fuzz on numeric values, found " ++ found.name
  | zeroMaximum => "Cannot compute percentages against a maximum of zero"

inductive ConfigurationFault where
  | notAnObject (found : Json.Kind)
  | notAnArray (key : String) (found : Json.Kind)
  | itemNotAnObject (key : String) (found : Json.Kind)
  | missingFile (path : String)
  | malformedSettings
  | logFilter (text : String)
  | alreadyInstalled
  deriving DecidableEq, Repr

def ConfigurationFault.message : ConfigurationFault → String
  | notAnObject found => "expected a JSON object to wrap as a resource, got " ++ found.name
  | notAnArray key found => "expected '" ++ key ++ "' to be an array, got " ++ found.name
  | itemNotAnObject key found =>
    "expected every '" ++ key ++ "' entry to be an object, got " ++ found.name
  | missingFile path => path ++ ": No such file or directory (os error 2)"
  | malformedSettings => "malformed settings"
  | logFilter text => "invalid log filter '" ++ text ++ "'"
  | alreadyInstalled => "a global default trace dispatcher has already been set"

inductive ReadingLayer where
  | graph
  | node
  deriving DecidableEq, Repr

def ReadingLayer.message : ReadingLayer → String
  | graph => "Unable to parse graph"
  | node => "Could not parse node"

variable [Engine]

inductive Error where
  | missingTag (tag : String)
  | declarationSyntax (fragment : String) (fault : DeclarationFault)
  | missingType (parameters : Parameters)
  | unregisteredType (nodeType : String)
  | unregisteredReference (name : String)
  | duplicateNode (name : String)
  | unknownStage (name : String)
  | duplicateRegistration (nodeType : String)
  | mandatoryParameter (nodeType key : String)
  | invalidParameter (nodeType key : String) (expected : Expectation) (actual : Literal)
  | nodeFailure (nodeType : String) (fault : DataFault)
  | reading (layer : ReadingLayer) (context : String) (cause : Error)
  | configuration (fault : ConfigurationFault)
  | malformedJson
  deriving DecidableEq

namespace Error

/-- The wording of an error; a layer of reading leaves the cause to its own wording. -/
def message : Error → String
  | missingTag tag => "Line with tag \"" ++ tag ++ ": \" was not found"
  | declarationSyntax fragment fault =>
    "Invalid declaration syntax: " ++ fault.message ++ " (in \x60" ++ fragment ++ "\x60)"
  | missingType parameters => "Missing required 'type' in params: " ++ parameters.toText
  | unregisteredType nodeType => "Unregistered node type: " ++ nodeType
  | unregisteredReference name => "Unregistered node in pipeline: " ++ name
  | duplicateNode name => "A node named " ++ name ++ " is already on this graph"
  | unknownStage name => "No node named " ++ name ++ " on this graph"
  | duplicateRegistration nodeType => "Node type already registered: " ++ nodeType
  | mandatoryParameter nodeType key =>
    "Missing mandatory parameter '" ++ key ++ "' for node type " ++ nodeType
  | invalidParameter nodeType key expected actual =>
    "Invalid parameter '" ++ key ++ "' for node type " ++ nodeType ++ ": expected " ++
      expected.name ++ ", got " ++ actual.toText
  | nodeFailure nodeType fault => "Node " ++ nodeType ++ " failed: " ++ fault.message
  | reading layer _ _ => layer.message
  | configuration fault => "Configuration error: " ++ fault.message
  | malformedJson => "Serialization error: malformed JSON"

/-- The cause below all layers of reading. -/
def rootCause : Error → Error
  | reading _ _ cause => cause.rootCause
  | cause => cause

end Error

def Parameters.read (text : String) : Except Error Parameters :=
  (Parameters.ofText text).mapError fun fault => .declarationSyntax text (.literal fault)

end RecordFlow
