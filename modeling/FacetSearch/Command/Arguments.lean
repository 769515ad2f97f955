import FacetSearch.Command.OptionName
import FacetSearch.Criteria.MatchMode
import FacetSearch.Number.Numeral
import FacetSearch.Text.Quoted
import FacetSearch.Text.Split
/-!
# Arguments of the command

Every argument is first told apart: an option, perhaps with a text behind an equals sign, a text, or
something with a dash in front that is no option. Negative numbers and whatever holds a space are
texts, and so is everything behind two dashes. Then the options take their texts in order; two dashes
alone behind an equals sign give an option nothing. Texts that no option takes are refused at the end,
all together.
-/

namespace FacetSearch.Command

/-- What an option that takes a text is given: the option may be absent, or stand there with nothing. -/
inductive Given (α : Type) where
  | absent
  | nothing
  | value (x : α)

namespace Given

/-- A text that is given and not empty. -/
def text? : Given String → Option String
  | value s => if s = "" then none else some s
  | _ => none

/-- What stands with an option that is there. -/
def ofOption {α : Type} : Option α → Given α
  | some x => value x
  | none => nothing

end Given

/-- What the arguments say. A text that may be given several times is missing where an option stands with
nothing. -/
structure Arguments where
  table : Given String := .absent
  databaseUrl : Given String := .absent
  catalog : Given String := .absent
  tags : List (Option String) := []
  attributeGroups : List (Option String) := []
  columns : List (Option String) := []
  numeric : List (Option String) := []
  range : Option (Double × Double) := none
  matchMode : Given MatchMode := .absent
  regex : Bool := false
  limit : Given Int := .absent
  showSql : Bool := false
  listTables : Bool := false
  logLevel : Given String := .absent

/-- What is wrong with arguments. -/
inductive UsageFault where
  | ambiguous (argument : String) (spellings : List String)
  | operands (o : OptionName)
  | attached (o : OptionName) (text : String)
  | integer (o : OptionName) (text : String)
  | number (o : OptionName) (text : String)
  | choice (o : OptionName) (text : String)
  | unrecognized (arguments : List String)
  deriving DecidableEq

/-- Why arguments say nothing: help is asked for, or something is wrong with them. -/
inductive Refusal where
  | help
  | usage (f : UsageFault)
  deriving DecidableEq

/-- The number of texts that are expected. -/
def Operands.expected : Operands → String
  | .none => "expected 0 arguments"
  | .one => "expected one argument"
  | .two => "expected 2 arguments"

/-- The words for a fault that is about an option. -/
def optionMessage (o : OptionName) (message : String) : String := "argument " ++ o.label ++ ": " ++ message

/-- The words for a fault. -/
def UsageFault.message : UsageFault → String
  | ambiguous argument spellings =>
    "ambiguous option: " ++ argument ++ " could match " ++ ", ".intercalate spellings
  | operands o => optionMessage o o.operands.expected
  | attached o text => optionMessage o ("ignored explicit argument " ++ Text.quoted text)
  | integer o text => optionMessage o ("invalid int value: " ++ Text.quoted text)
  | number o text => optionMessage o ("invalid float value: " ++ Text.quoted text)
  | choice o text => optionMessage o ("invalid choice: " ++ Text.quoted text ++ " (choose from " ++
      ", ".intercalate (MatchMode.all.map fun m => Text.quoted m.name) ++ ")")
  | unrecognized arguments => "unrecognized arguments: " ++ " ".intercalate arguments

/-! ## Telling arguments apart -/

/-- What an argument is. -/
inductive Word where
  | text
  | option (o : OptionName) (attached : Option String)
  /-- The short option for help with something behind it. -/
  | shortHelp (behind : List Char)
  | separator
  | unknown
  deriving DecidableEq

/-- A dash and decimal digits, perhaps with a point before the last of them; a line end may follow. -/
def isNegativeNumber : List Char → Bool
  | '-' :: cs =>
    let cs := if cs.getLast? = some '\n' then cs.dropLast else cs
    match cs.dropWhile Text.isDigit with
    | [] => !cs.isEmpty
    | '.' :: fraction => !fraction.isEmpty && fraction.all Text.isDigit
    | _ => false
  | _ => false

/-- What an argument with a dash in front is that is no option. -/
def Word.ofOther (s : String) : Word :=
  if isNegativeNumber s.toList || s.toList.contains ' ' then .text else .unknown

/-- The text before the first equals sign, and the text behind it if there is one. -/
def splitAttached (s : String) : String × Option String :=
  match Text.splitOnce '=' s with
  | some (name, text) => (name, some text)
  | none => (s, none)

/-- What an argument is before the separator. -/
def Word.ofString (s : String) : Except UsageFault Word :=
  let (name, attached) := splitAttached s
  match s.toList with
  | '-' :: c :: cs =>
    match OptionName.ofSpelling? s, OptionName.ofSpelling? name with
    | some o, _ => .ok (.option o none)
    | none, some o =>
      .ok (if c = 'h' then .shortHelp (cs.drop 1) else .option o attached)
    | none, none =>
      if c = '-' then
        match OptionName.beginning name with
        | [] => .ok (.ofOther s)
        | [(_, o)] => .ok (.option o attached)
        | several => .error (.ambiguous s (several.map Prod.fst))
      else if c = 'h' then .ok (.shortHelp cs)
      else .ok (.ofOther s)
  | _ => .ok .text

/-- The arguments with what they are. -/
def tellApart : List String → Except UsageFault (List (String × Word))
  | [] => .ok []
  | "--" :: rest => .ok (("--", .separator) :: rest.map fun s => (s, .text))
  | s :: rest => do
    let w ← Word.ofString s
    return (s, w) :: (← tellApart rest)

/-! ## Taking texts -/

namespace Arguments

/-- The arguments after an option that takes no text. -/
def setFlag (a : Arguments) : OptionName → Arguments
  | .regex => { a with regex := true }
  | .showSql => { a with showSql := true }
  | .listTables => { a with listTables := true }
  | _ => a

/-- What a text stands for, which has to be something. -/
def orFault {α : Type} (f : UsageFault) : Option α → Except UsageFault α
  | some x => .ok x
  | none => .error f

/-- What a text, if there is one, stands for. -/
def reading {α : Type} (f : String → UsageFault) (read : String → Option α) :
    Option String → Except UsageFault (Given α)
  | none => .ok .nothing
  | some text => .value <$> orFault (f text) (read text)

/-- The arguments after an option that takes a text, with the text or with nothing. -/
def setText (a : Arguments) (o : OptionName) (text : Option String) : Except UsageFault Arguments :=
  match o with
  | .table => .ok { a with table := .ofOption text }
  | .databaseUrl => .ok { a with databaseUrl := .ofOption text }
  | .catalog => .ok { a with catalog := .ofOption text }
  | .tag => .ok { a with tags := a.tags ++ [text] }
  | .attributeGroup => .ok { a with attributeGroups := a.attributeGroups ++ [text] }
  | .column => .ok { a with columns := a.columns ++ [text] }
  | .numeric => .ok { a with numeric := a.numeric ++ [text] }
  | .logLevel => .ok { a with logLevel := .ofOption text }
  | .matchMode => do return { a with matchMode := ← reading (.choice o) MatchMode.ofName? text }
  | .limit => do return { a with limit := ← reading (.integer o) (fun s => Numeral.int? s.toList) text }
  | _ => .ok a

/-- A binary64 number that an option takes. -/
def number (o : OptionName) (text : String) : Except UsageFault Double :=
  orFault (.number o text) (Numeral.double? text.toList)

/-- The arguments after an option that takes two texts. -/
def setRange (a : Arguments) (o : OptionName) (lower upper : String) : Except UsageFault Arguments := do
  return { a with range := some (← number o lower, ← number o upper) }

/-- The arguments after an option with a text behind an equals sign. -/
def setAttached (a : Arguments) (o : OptionName) (text : String) : Except UsageFault Arguments :=
  match o.operands with
  | .none => .error (.attached o text)
  | .one => a.setText o (if text = "--" then none else some text)
  | .two => .error (.operands o)

/-- What the short option for help means with something behind it: it may be repeated, and nothing else
may follow. -/
def shortHelp (behind : List Char) : Refusal :=
  match behind, behind.dropWhile (· == 'h') with
  | _ :: _, [] => .help
  | _, rest => .usage (.attached .help (String.ofList rest))

/-- A fault as a refusal. -/
def orUsage {α : Type} : Except UsageFault α → Except Refusal α
  | .ok x => .ok x
  | .error f => .error (.usage f)

/-- The arguments and the texts that no option takes, after those that are given. -/
def take (a : Arguments) (left : List String) : List (String × Word) → Except Refusal (Arguments × List String)
  | [] => .ok (a, left)
  | (_, .option o (some text)) :: rest => do take (← orUsage (a.setAttached o text)) left rest
  | (_, .shortHelp behind) :: _ => .error (shortHelp behind)
  | (_, .option .help none) :: _ => .error .help
  | (_, .option o none) :: rest =>
    match o.operands, rest with
    | .none, rest => take (a.setFlag o) left rest
    | .one, (text, .text) :: rest => do take (← orUsage (a.setText o (some text))) left rest
    | .two, (lower, .text) :: (upper, .text) :: rest => do
      take (← orUsage (a.setRange o lower upper)) left rest
    | _, _ => .error (.usage (.operands o))
  | (s, .text) :: rest | (s, .separator) :: rest | (s, .unknown) :: rest => take a (left ++ [s]) rest

/-- What arguments say. -/
def parse (arguments : List String) : Except Refusal Arguments := do
  let (a, left) ← take {} [] (← orUsage (tellApart arguments))
  if left.isEmpty then return a else throw (.usage (.unrecognized left))

end Arguments

end FacetSearch.Command
