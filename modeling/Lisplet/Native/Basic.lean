/-!
# Native functions

The functions that the host provides, by name. What they do is said elsewhere;
here they are only told apart.
-/

namespace Lisplet

/-- Instruments that an embedding can install to watch an evaluation. -/
inductive Probe where
  /-- Notes its first argument and returns it. -/
  | touch
  /-- Fails with its first argument. -/
  | fail
  /-- Answers with something that is no value. -/
  | bad
  deriving DecidableEq

inductive Native where
  | display
  | readFile
  | writeFile
  | equal
  | notEqual
  | greater
  | greaterEqual
  | less
  | lessEqual
  | add
  | subtract
  | multiply
  | divide
  | isNumber
  | negate
  | conjunction
  | disjunction
  | stringJoin
  | stringSplit
  | stringUpcase
  | stringDowncase
  | stringReverse
  | stringTrim
  | startsWith
  | endsWith
  | list
  | first
  | rest
  | nth
  | take
  | drop
  | count
  | map
  | filter
  | reduce
  | flatmap
  | probe (instrument : Probe)
  deriving DecidableEq

def Probe.name : Probe → String
  | .touch => "touch"
  | .fail => "fail"
  | .bad => "bad"

namespace Native

def name : Native → String
  | .display => "display"
  | .readFile => "read-file"
  | .writeFile => "write-file"
  | .equal => "="
  | .notEqual => "not="
  | .greater => ">"
  | .greaterEqual => ">="
  | .less => "<"
  | .lessEqual => "<="
  | .add => "+"
  | .subtract => "-"
  | .multiply => "*"
  | .divide => "/"
  | .isNumber => "number?"
  | .negate => "not"
  | .conjunction => "and"
  | .disjunction => "or"
  | .stringJoin => "string-join"
  | .stringSplit => "string-split"
  | .stringUpcase => "string-upcase"
  | .stringDowncase => "string-downcase"
  | .stringReverse => "string-reverse"
  | .stringTrim => "string-trim"
  | .startsWith => "starts-with?"
  | .endsWith => "ends-with?"
  | .list => "list"
  | .first => "first"
  | .rest => "rest"
  | .nth => "nth"
  | .take => "take"
  | .drop => "drop"
  | .count => "count"
  | .map => "map"
  | .filter => "filter"
  | .reduce => "reduce"
  | .flatmap => "flatmap"
  | .probe instrument => instrument.name

def standard : List Native :=
  [.display, .readFile, .writeFile,
    .equal, .notEqual, .greater, .greaterEqual, .less, .lessEqual,
    .add, .subtract, .multiply, .divide, .isNumber,
    .negate, .conjunction, .disjunction,
    .stringJoin, .stringSplit, .stringUpcase, .stringDowncase, .stringReverse,
    .stringTrim, .startsWith, .endsWith,
    .list, .first, .rest, .nth, .take, .drop, .count,
    .map, .filter, .reduce, .flatmap]

def probes : List Native :=
  [.probe .touch, .probe .fail, .probe .bad]

end Native

end Lisplet
