import SlotQuery.Markers
import SlotQuery.Settings.Key
import SlotQuery.Text.Quoted
/-!
# What can go wrong

An error is the cause of a failure.  Its wording is given in one place, `Error.message`; errors
that a driver reports carry the driver's code and text along.
-/

namespace SlotQuery

/-- What a database driver reports: a code and a text. -/
structure DriverError where
  code : Int32
  message : String
deriving DecidableEq, Inhabited

/-- The code in brackets, then the text. -/
def DriverError.text (e : DriverError) : String :=
  "[" ++ toString e.code.toInt ++ "] " ++ e.message

/-- Which of the two tokens of a pair. -/
inductive Side
  | opening
  | closing
deriving DecidableEq, Inhabited

/-- The side's name. -/
def Side.name : Side → String
  | opening => "opening"
  | closing => "closing"

/-- A feature that a driver may lack. -/
inductive Capability
  | preparedStatements
  | transactions
  | bulkLoad
  /-- A feature described in words. -/
  | described (text : String)
deriving DecidableEq, Inhabited

/-- The feature's name. -/
def Capability.name : Capability → String
  | preparedStatements => "prepared statements"
  | transactions => "transactions"
  | bulkLoad => "bulk load"
  | described text => text

/-- A name that leads nowhere. -/
inductive Missing
  | savedQuery (name : String)
  | file (path : String)
  /-- A resource described in words. -/
  | described (text : String)
deriving DecidableEq, Inhabited

/-- The missing resource in words. -/
def Missing.text : Missing → String
  | savedQuery name => "saved query \x60" ++ name ++ "\x60"
  | file path => "SQL file " ++ path
  | described text => text

/-- What is wrong with settings or with the markers they give. -/
inductive ConfigFault
  /-- The markers cannot be scanned for. -/
  | unusableMarkers (m : Markers)
  /-- A placeholder would be taken for a marker. -/
  | tokenInPlaceholder (placeholder : String) (m : Markers)
  /-- Overrides come as an object; this is the text of what came instead. -/
  | notAnObject (got : String)
  /-- A setting got a value of the wrong shape, given by its text. -/
  | wrongShape (key : Settings.Key) (got : String)
  /-- A fault described in words. -/
  | described (text : String)
deriving DecidableEq, Inhabited

/-- The fault in words. -/
def ConfigFault.text : ConfigFault → String
  | unusableMarkers m => "unusable delimiter pair " ++ m.shown
  | tokenInPlaceholder placeholder m =>
    "placeholder " ++ Text.quoted placeholder ++ " contains a token of " ++ m.shown
  | notAnObject got => "settings overrides must be a JSON object, got " ++ got
  | wrongShape key got =>
    "invalid value " ++ got ++ " for setting \x60" ++ key.name ++ "\x60"
  | described text => text

/-- What is wrong with a value that should go into a statement. -/
inductive ValueFault
  /-- A text holds a marker, so markers around it would not delimit it. -/
  | tokenInText (text : String)
  /-- A row is longer or shorter than the list of columns. -/
  | raggedRow (row values columns : Nat)
  /-- Staged files hold text only. -/
  | blobInBulk
  /-- The placeholder of an extracted literal is not where it should be. -/
  | placeholderMissing (offset : Nat)
  /-- A fault described in words. -/
  | described (text : String)
deriving DecidableEq, Inhabited

/-- The fault in words. -/
def ValueFault.text : ValueFault → String
  | tokenInText text =>
    "value contains a template delimiter and cannot be inlined: " ++ Text.quoted text
  | raggedRow row values columns =>
    "row " ++ toString row ++ " has " ++ toString values ++ " values, expected " ++ toString columns
  | blobInBulk => "binary values cannot be bulk loaded"
  | placeholderMissing offset =>
    "placeholder for literal at offset " ++ toString offset ++ " is missing"
  | described text => text

/-- Why an operation failed. -/
inductive Error
  | missingCapability (feature : Capability)
  | notConnected
  | connectionFailed (e : DriverError)
  | unmatched (side : Side) (offset : Nat)
  | preparationFailed (e : DriverError)
  | executionFailed (e : DriverError)
  | queryFailed (e : DriverError)
  | teardownFailed (e : DriverError)
  | notFound (what : Missing)
  | config (fault : ConfigFault)
  | value (fault : ValueFault)
  /-- Reading or writing a file failed. -/
  | io (text : String)
  | other (text : String)
deriving DecidableEq, Inhabited

namespace Error

/-- The error in words. -/
def message : Error → String
  | missingCapability feature => "Missing driver capability: " ++ feature.name
  | notConnected => "No active database connection"
  | connectionFailed e => "Connection failed: " ++ e.text
  | unmatched side offset =>
    "Unmatched " ++ side.name ++ " delimiter at offset " ++ toString offset
  | preparationFailed e => "Statement preparation failed: " ++ e.text
  | executionFailed e => "Statement execution failed: " ++ e.text
  | queryFailed e => "Query execution failed: " ++ e.text
  | teardownFailed e => "Connection teardown failed: " ++ e.text
  | notFound what => "Named resource not found: " ++ what.text
  | config fault => "Configuration error: " ++ fault.text
  | value fault => "Parameter conversion error: " ++ fault.text
  | io text => text
  | other text => "Other database error: " ++ text

/-- What the driver reported, where a driver was the cause. -/
def driver? : Error → Option DriverError
  | connectionFailed e | preparationFailed e | executionFailed e | queryFailed e
  | teardownFailed e => some e
  | _ => none

end Error

end SlotQuery
