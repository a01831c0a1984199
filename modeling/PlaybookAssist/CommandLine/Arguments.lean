import PlaybookAssist.Number.Integer
import PlaybookAssist.Path

/-!
# Arguments

The arguments of the command line are options, which begin with a dash, and values, of which one may
be left over: the file. An option may be cut short as long as only one option begins like it. Its
value is the next argument, or follows a `=` in the same one. After `--` everything is a value.

## Main definitions

- `CommandOption` : the options
- `Word`, `Word.ofText` : what an argument is, from its looks
- `Arguments` : what the arguments ask for
- `Arguments.parse` : the arguments read from left to right, or why they cannot be followed
-/

namespace PlaybookAssist

/-- The options. -/
inductive CommandOption where
  | help
  | line
  | column
  | workspace
  | config
  | noEntitlement
  | verbose
  deriving DecidableEq, Repr

namespace CommandOption

/-- The spellings of the options. -/
def spellings : List (Text × CommandOption) :=
  [("-h", .help), ("--help", .help), ("--line", .line), ("--column", .column),
   ("--workspace", .workspace), ("--config", .config), ("--no-entitlement", .noEntitlement),
   ("--verbose", .verbose)]

/-- Does the option have a value? -/
def takesValue : CommandOption → Bool
  | .line | .column | .workspace | .config => true
  | .help | .noEntitlement | .verbose => false

end CommandOption

/-- Why the arguments cannot be followed. -/
inductive UsageFault where
  /-- An option cut too short. -/
  | ambiguous (word : Text)
  /-- An option without its value. -/
  | missingValue (option : CommandOption)
  /-- A value for an option that has none. -/
  | unexpectedValue (option : CommandOption)
  /-- A number that is none. -/
  | notANumber (word : Text)
  /-- An argument too many. -/
  | unrecognised
  /-- No file, or no line. -/
  | incomplete
  deriving DecidableEq, Repr

/-! ## Words -/

/-- What an argument is. -/
inductive Word where
  | value (t : Text)
  | separator
  /-- An option, with the value that stands in the same argument. -/
  | option (o : CommandOption) (attached : Option Text)
  | unknown
  deriving DecidableEq, Repr

namespace Word

/-- The mark after which everything is a value. -/
def separatorMark : Text := ['-', '-']

/-- Is the text a number below zero? A line feed at its end does not count. -/
def isNegativeNumber (t : Text) : Bool :=
  let body := if t.getLast? == some '\n' then t.dropLast else t
  match body with
  | '-' :: digits =>
    let isDigit (c : Char) : Bool := (decimalValue? c).isSome
    match Text.cut '.' digits with
    | (whole, none) => !whole.isEmpty && whole.all isDigit
    | (whole, some fraction) =>
      whole.all isDigit && !fraction.isEmpty && fraction.all isDigit
  | _ => false

/-- The option for help in its short spelling, which may be repeated in one argument. -/
def shortHelp (attached : Text) : Word :=
  if !attached.isEmpty && attached.all (· = 'h') then .option .help none
  else .option .help (some attached)

/-- The options that a word may be meant for, with the value that stands in the same argument. -/
def candidates (t : Text) : List Word :=
  if Text.startsWith separatorMark t then
    let (name, attached) := Text.cut '=' t
    (CommandOption.spellings.filter fun s => Text.startsWith name s.1).map fun s =>
      .option s.2 attached
  else
    match Text.dropStart? "-h" t with
    | some attached => [shortHelp attached]
    | none => []

/-- What an argument is that begins with a dash and has something after it. -/
def ofDashed (t : Text) : Except UsageFault Word :=
  let whole := match CommandOption.spellings.lookup t with
    | some o => some (Word.option o none)
    | none =>
      match Text.cut '=' t with
      | (_, none) => none
      | (name, some attached) =>
        (CommandOption.spellings.lookup name).map fun o =>
          if name = ['-', 'h'] then shortHelp attached else .option o (some attached)
  match whole with
  | some w => .ok w
  | none =>
    match candidates t with
    | [w] => .ok w
    | _ :: _ :: _ => .error (.ambiguous t)
    | [] => .ok (if isNegativeNumber t || t.elem ' ' then .value t else .unknown)

/-- What an argument is, from its looks. -/
def ofText (t : Text) : Except UsageFault Word :=
  match t with
  | '-' :: _ :: _ => ofDashed t
  | _ => .ok (.value t)

/-- What the arguments are. -/
def ofTexts : List Text → Except UsageFault (List Word)
  | [] => .ok []
  | t :: ts =>
    if t = separatorMark then .ok (.separator :: ts.map .value)
    else do
      let w ← ofText t
      pure (w :: (← ofTexts ts))

end Word

/-! ## Arguments -/

/-- What the arguments ask for. An option that is given the mark `--` as its value in the same
    argument has nothing for its value. -/
structure Arguments where
  file : Text
  line : Option Int
  column : Option Int
  workspace : Option Text
  config : Option Text
  entitled : Bool
  verbose : Bool
  deriving DecidableEq, Repr

/-- What the arguments read so far ask for. -/
structure Draft where
  file : Option Text
  /-- The line, once it has been given. -/
  line : Option (Option Int)
  column : Option Int
  workspace : Option Text
  config : Option Text
  entitled : Bool
  verbose : Bool
  /-- Was there an argument too many? -/
  surplus : Bool
  deriving DecidableEq, Repr

/-- What comes of reading arguments. -/
inductive Reading (α : Type) where
  | done (a : α)
  /-- The user wants help. -/
  | help
  | fault (f : UsageFault)
  deriving DecidableEq, Repr

namespace Draft

/-- What is asked for without any argument. -/
def empty (workspace : Text) : Draft :=
  { file := none, line := none, column := some 0, workspace := some workspace, config := none
    entitled := true, verbose := false, surplus := false }

/-- The number that a value of an option is. -/
def numberOf : Option Text → Except UsageFault (Option Int)
  | none => .ok none
  | some t =>
    match Integer.read? 10 t with
    | some n => .ok (some n)
    | none => .error (.notANumber t)

/-- The draft with the value of an option. -/
def give (o : CommandOption) (value : Option Text) (d : Draft) : Except UsageFault Draft :=
  match o with
  | .line => (numberOf value).map fun n => { d with line := some n }
  | .column => (numberOf value).map fun n => { d with column := n }
  | .workspace => .ok { d with workspace := value }
  | .config => .ok { d with config := value }
  | .help | .noEntitlement | .verbose => .ok d

/-- The draft with an option that has no value. -/
def switch (o : CommandOption) (d : Draft) : Draft :=
  match o with
  | .noEntitlement => { d with entitled := false }
  | .verbose => { d with verbose := true }
  | _ => d

/-- The draft after the words, read from left to right. The first value that belongs to no option is
    the file, and a mark `--` next to it goes with it. -/
def read (d : Draft) : List Word → Reading Draft
  | [] => .done d
  | .value t :: .separator :: rest =>
    if d.file.isNone then read { d with file := some t } rest
    else read { d with surplus := true } rest
  | .value t :: rest =>
    if d.file.isNone then read { d with file := some t } rest
    else read { d with surplus := true } rest
  | .separator :: .value t :: rest =>
    if d.file.isNone then read { d with file := some t } rest
    else read { d with surplus := true } rest
  | .separator :: rest => read { d with surplus := true } rest
  | .unknown :: rest => read { d with surplus := true } rest
  | .option o (some attached) :: rest =>
    if !o.takesValue then .fault (.unexpectedValue o)
    else
      let value := if attached = Word.separatorMark then none else some attached
      match d.give o value with
      | .ok d => read d rest
      | .error f => .fault f
  | .option o none :: rest =>
    if o = .help then .help
    else if !o.takesValue then read (d.switch o) rest
    else
      match rest with
      | .value t :: rest =>
        match d.give o (some t) with
        | .ok d => read d rest
        | .error f => .fault f
      | _ => .fault (.missingValue o)

/-- What a draft asks for, when it is complete. -/
def finish (d : Draft) : Reading Arguments :=
  match d.file, d.line with
  | some file, some line =>
    if d.surplus then .fault .unrecognised
    else
      .done
        { file, line, column := d.column, workspace := d.workspace, config := d.config
          entitled := d.entitled, verbose := d.verbose }
  | _, _ => .fault .incomplete

end Draft

/-- What the arguments ask for, the workspace being the given one unless they say otherwise. -/
def Arguments.parse (workspace : Text) (arguments : List Text) : Reading Arguments :=
  match Word.ofTexts arguments with
  | .error f => .fault f
  | .ok words =>
    match (Draft.empty workspace).read words with
    | .done d => d.finish
    | .help => .help
    | .fault f => .fault f

end PlaybookAssist
