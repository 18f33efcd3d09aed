/-!
# Log lines

What a run tells about its work. A line has a level and the topic it belongs to; which lines are
shown is decided by both, elsewhere.
-/

namespace MailMerge.Log

/-- How important a line is, the most important level first. -/
inductive Level where
  | error
  | warn
  | info
  | debug
  | trace
  deriving DecidableEq, Repr

namespace Level

/-- The name of a level. -/
def name : Level → String
  | error => "ERROR"
  | warn => "WARN"
  | info => "INFO"
  | debug => "DEBUG"
  | trace => "TRACE"

/-- The number of a level, which grows as importance falls. -/
def rank : Level → Nat
  | error => 1
  | warn => 2
  | info => 3
  | debug => 4
  | trace => 5

end Level

/-- What a line is about. -/
inductive Topic where
  /-- The program as a whole. -/
  | program
  /-- Reading the value of an option. -/
  | loader
  /-- The options in force. -/
  | config
  /-- Rows and files. -/
  | processor
  deriving DecidableEq, Repr

/-- The path of a topic. The topics of the parts lie below that of the program. -/
def Topic.path : Topic → String
  | program => "template_processor"
  | loader => "template_processor::loader"
  | config => "template_processor::config"
  | processor => "template_processor::processor"

/-- A log line. -/
structure Line where
  level : Level
  topic : Topic
  text : String
  deriving DecidableEq, Repr

/-- A line as it is shown. -/
def Line.render (l : Line) : String := "[" ++ l.level.name ++ "]: " ++ l.text

end MailMerge.Log
