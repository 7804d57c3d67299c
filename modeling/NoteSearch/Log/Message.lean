import NoteSearch.Log.Literal
import NoteSearch.Number.Places

/-!
# Log messages

A message is a template with arguments. A percent sign begins a directive that the next argument fills,
or the argument of a given name when the arguments are one mapping. A message without arguments is its
template as it stands.
-/

namespace NoteSearch.Log

/-- Why a template cannot be filled. -/
inductive MessageError
  | tooFewArguments
  | tooManyArguments
  | notMapping
  | missingName (name : Text)
  | unclosedName
  | incomplete
  | sizeNotInt
  | sizeTooLarge (which : String)
  | sizeOverflow (word : String)
  | unsupported (conversion : Char) (position : Nat)
  | notReal (conversion : Char) (kind : String)
  | notInt (conversion : Char) (kind : String)
  | notFloat (kind : String)
  | notChar
  | charTooLarge
  | nanToInt
  | infinityToInt
  | intTooLarge
  deriving DecidableEq, Repr

def MessageError.message : MessageError → Text
  | .tooFewArguments => "not enough arguments for format string".toList
  | .tooManyArguments => "not all arguments converted during string formatting".toList
  | .notMapping => "format requires a mapping".toList
  | .missingName name => Text.quoted name
  | .unclosedName => "incomplete format key".toList
  | .incomplete => "incomplete format".toList
  | .sizeNotInt => "* wants int".toList
  | .sizeTooLarge which => (which ++ " too big").toList
  | .sizeOverflow word => ("Python int too large to convert to C " ++ word).toList
  | .unsupported c position =>
      let shown := if 31 ≤ c.toNat ∧ c.toNat < 127 then c else '?'
      "unsupported format character '".toList ++ shown :: "' (0x".toList ++ Nat.toDigits 16 c.toNat
        ++ ") at index ".toList ++ Nat.toDigits 10 position
  | .notReal c kind =>
      '%' :: c :: (" format: a real number is required, not " ++ kind).toList
  | .notInt c kind => '%' :: c :: (" format: an integer is required, not " ++ kind).toList
  | .notFloat kind => ("must be real number, not " ++ kind).toList
  | .notChar => "%c requires int or char".toList
  | .charTooLarge => "%c arg not in range(0x110000)".toList
  | .nanToInt => "cannot convert float NaN to integer".toList
  | .infinityToInt => "cannot convert float infinity to integer".toList
  | .intTooLarge => "int too large to convert to float".toList

/-- The arguments that are left, and the mapping when they are one. -/
structure Arguments where
  left : List Json
  mapping : Option (List (String × Json))

/-- A single mapping that is not empty gives its values by name. -/
def Arguments.ofList : List Json → Arguments
  | [.object (field :: fields)] => ⟨[.object (field :: fields)], some (field :: fields)⟩
  | items => ⟨items, none⟩

abbrev Filled (α : Type) := Except MessageError α

/-- The text of a message. Half of a surrogate pair is no character, so where one is asked for the place is
empty. -/
abbrev Message := List (Option Char)

namespace Message

def ofText (t : Text) : Message :=
  t.map some

/-- The message as a text, if no place is empty. -/
def text? (message : Message) : Option Text :=
  message.mapM id

end Message

def Arguments.next (arguments : Arguments) : Filled (Json × Arguments) :=
  match arguments.left with
  | [] => .error .tooFewArguments
  | value :: left => .ok (value, { arguments with left })

/-- Makes the value of a name the next argument. -/
def Arguments.select (arguments : Arguments) (name : Text) : Filled Arguments :=
  match arguments.mapping with
  | none => .error .notMapping
  | some fields =>
      match fields.lookup (String.ofList name) with
      | none => .error (.missingName name)
      | some value => .ok { arguments with left := [value] }

/-- The name in parentheses after a percent sign, which may itself hold closed parentheses. -/
def readName (depth : Nat) (back : Text) : Text → Option (Text × Text)
  | [] => none
  | c :: rest =>
      if c == ')' then
        if depth = 0 then some (back.reverse, rest) else readName (depth - 1) (c :: back) rest
      else readName (if c == '(' then depth + 1 else depth) (c :: back) rest

def isFlag (c : Char) : Bool :=
  "-+ #0".toList.contains c

/-- One of the two numbers that a directive may have. -/
structure SizeField where
  name : String
  /-- The largest number that may stand in the template. -/
  maximum : Nat
  /-- The word that holds the number when it is an argument. -/
  word : String

def widthField : SizeField := ⟨"width", 0x7FFFFFFFFFFFFFFF, "ssize_t"⟩

def precisionField : SizeField := ⟨"precision", 0x7FFFFFFF, "int"⟩

/-- What is read of a directive: a part of it, the arguments that are left and the rest of the template. -/
abbrev Part (α : Type) := Filled (α × Arguments × Text)

/-- A number that is given as an argument, if its word can hold it. -/
def SizeField.ofArgument (field : SizeField) (value : Json) : Filled Int :=
  let fit (n : Int) : Filled Int :=
    if -(field.maximum : Int) - 1 ≤ n ∧ n ≤ field.maximum then .ok n else .error (.sizeOverflow field.word)
  match value with
  | .int n => fit n
  | .bool b => .ok (if b then 1 else 0)
  | _ => .error .sizeNotInt

/-- Reads a number: a star takes the next argument. -/
def SizeField.read (field : SizeField) (arguments : Arguments) (t : Text) : Part (Option Int) :=
  match t with
  | '*' :: rest =>
      arguments.next.bind fun (value, arguments) =>
        (field.ofArgument value).map fun n => (some n, arguments, rest)
  | _ =>
      match t.takeWhile Char.isDigit with
      | [] => .ok (none, arguments, t)
      | digits =>
          let n := digits.foldl (fun n c => 10 * n + (c.toNat - 48)) 0
          if field.maximum < n then .error (.sizeTooLarge field.name)
          else .ok (some n, arguments, t.dropWhile Char.isDigit)

/-- Reads the precision after a point; a point alone asks for zero, and so does a negative number. -/
def readPrecision (arguments : Arguments) (t : Text) : Part (Option Nat) :=
  match t with
  | '.' :: rest =>
      (precisionField.read arguments rest).map fun (n, arguments, rest) =>
        (some (n.getD 0).toNat, arguments, rest)
  | _ => .ok (none, arguments, t)

/-- Reads a name in parentheses and makes its value the next argument. -/
def readSelection (arguments : Arguments) (t : Text) : Filled (Arguments × Text) :=
  match t with
  | '(' :: rest =>
      if arguments.mapping.isNone then .error .notMapping
      else match readName 0 [] rest with
        | none => .error .unclosedName
        | some (name, rest) => (arguments.select name).map fun arguments => (arguments, rest)
  | _ => .ok (arguments, t)

/-- Passes over the mark of a longer or shorter word, which says nothing here. -/
def skipWordMark : Text → Text
  | 'h' :: rest => rest
  | 'l' :: rest => rest
  | 'L' :: rest => rest
  | t => t

/-- How a filled directive is laid out. -/
structure Layout where
  width : Nat
  leftAligned : Bool
  zeroFilled : Bool
  plus : Bool
  space : Bool

/-- The blanks before and after what is `length` long. -/
def Layout.blanks (layout : Layout) (length : Nat) : Text × Text :=
  let missing := List.replicate (layout.width - length) ' '
  if layout.leftAligned then ([], missing) else (missing, [])

def Layout.pad (layout : Layout) (body : Text) : Text :=
  let (before, after) := layout.blanks body.length
  before ++ body ++ after

/-- A number with its sign, filled with zeros if that is asked for. -/
def Layout.number (layout : Layout) (negative : Bool) (mark body : Text) : Text :=
  let sign : Text :=
    if negative then ['-'] else if layout.plus then ['+'] else if layout.space then [' '] else []
  let lead := sign ++ mark
  if layout.zeroFilled && !layout.leftAligned then
    lead ++ List.replicate (layout.width - (lead.length + body.length)) '0' ++ body
  else layout.pad (lead ++ body)

/-- An argument as an integer; a floating-point number is cut off when that is allowed. -/
def toInteger (conversion : Char) : Json → Filled Int
  | .int n => .ok n
  | .bool b => .ok (if b then 1 else 0)
  | .float (.finite negative m e) =>
      if conversion == 'd' || conversion == 'i' || conversion == 'u' then
        let (num, den) := Binary64.ratio m e
        .ok (if negative then -((num / den : Nat) : Int) else (num / den : Nat))
      else .error (.notInt conversion "float")
  | .float x =>
      if conversion == 'd' || conversion == 'i' || conversion == 'u' then
        .error (if x == .nan then .nanToInt else .infinityToInt)
      else .error (.notInt conversion "float")
  | value =>
      if conversion == 'd' || conversion == 'i' || conversion == 'u' then
        .error (.notReal conversion value.kindName)
      else .error (.notInt conversion value.kindName)

def toFloat : Json → Filled Binary64
  | .float x => .ok x
  | .bool b => .ok (.ofInt (if b then 1 else 0))
  | .int n =>
      match Binary64.ofInt n with
      | .finite s m e => .ok (.finite s m e)
      | _ => .error .intTooLarge
  | value => .error (.notFloat value.kindName)

/-- Digits of an integer in the base of a conversion, and the mark of that base. -/
def integerDigits (conversion : Char) (n : Nat) : Text × Text :=
  if conversion == 'x' then (Nat.toDigits 16 n, ['0', 'x'])
  else if conversion == 'X' then ((Nat.toDigits 16 n).map Char.toUpper, ['0', 'X'])
  else if conversion == 'o' then (Nat.toDigits 8 n, ['0', 'o'])
  else (Nat.toDigits 10 n, [])

/-- The digits of a floating-point number in the style of a conversion. -/
def floatDigits (conversion : Char) (full : Bool) (places : Nat) : Binary64 → Text
  | .finite _ m e =>
      let (num, den) := Binary64.ratio m e
      if conversion == 'f' || conversion == 'F' then Binary64.fixed full num den places
      else if conversion == 'e' || conversion == 'E' then
        Binary64.scientific full conversion num den places
      else Binary64.general full (if conversion == 'G' then 'E' else 'e') num den places
  | .infinite _ => (if conversion.isUpper then "INF" else "inf").toList
  | .nan => (if conversion.isUpper then "NAN" else "nan").toList

def isNegative : Binary64 → Bool
  | .finite negative .. => negative
  | .infinite negative => negative
  | .nan => false

/-- The text with every character above ASCII escaped. -/
def asciiOnly (t : Text) : Text :=
  t.flatMap fun c =>
    if c.toNat < 128 then [c]
    else if c.toNat < 0x100 then '\\' :: 'x' :: Text.hex 2 c.toNat
    else if c.toNat < 0x10000 then '\\' :: 'u' :: Text.hex 4 c.toNat
    else '\\' :: 'U' :: Text.hex 8 c.toNat

/-- A single character, given as itself or by its code point. -/
def toChar : Json → Filled (Option Char)
  | .str [c] => .ok (some c)
  | .int n =>
      if 0 ≤ n ∧ n < 0x110000 then
        .ok (if n.toNat.isValidChar then some (Char.ofNat n.toNat) else none)
      else .error .charTooLarge
  | .bool b => .ok (some (Char.ofNat b.toNat))
  | _ => .error .notChar

/-- Writes an argument as a conversion asks, which stands at a position in the template. -/
def convert (layout : Layout) (alternate : Bool) (precision : Option Nat) (c : Char) (position : Nat)
    (value : Json) : Filled Message :=
  let cut (t : Text) : Message := .ofText (layout.pad (match precision with
    | some n => t.take n
    | none => t))
  if c == 's' then .ok (cut value.shown)
  else if c == 'r' then .ok (cut value.literal)
  else if c == 'a' then .ok (cut (asciiOnly value.literal))
  else if c == 'c' then
    let (before, after) := layout.blanks 1
    (toChar value).map fun c => Message.ofText before ++ c :: Message.ofText after
  else if "diuxXo".toList.contains c then
    (toInteger c value).map fun (n : Int) =>
      let (digits, mark) := integerDigits c n.natAbs
      let body := List.replicate (precision.getD 0 - digits.length) '0' ++ digits
      .ofText (layout.number (decide (n < 0)) (if alternate then mark else []) body)
  else if "fFeEgG".toList.contains c then
    (toFloat value).map fun x =>
      .ofText (layout.number (isNegative x) [] (floatDigits c alternate (precision.getD 6) x))
  else .error (.unsupported c position)

/-- Reads the directive after a percent sign, in a template of the given length, and fills it. The
arguments are taken in the order in which the directive asks for them: those for its numbers first. -/
def fillDirective (total : Nat) (arguments : Arguments) (t : Text) : Part Message :=
  (readSelection arguments t).bind fun (arguments, t) =>
    let flags := t.takeWhile isFlag
    (widthField.read arguments (t.dropWhile isFlag)).bind fun (width, arguments, t) =>
      (readPrecision arguments t).bind fun (precision, arguments, t) =>
        match skipWordMark t with
        | [] => .error .incomplete
        | c :: rest =>
            arguments.next.bind fun (value, arguments) =>
              let layout : Layout :=
                { width := (width.getD (0 : Int)).natAbs
                  leftAligned := flags.contains '-' || decide (width.getD (0 : Int) < 0)
                  zeroFilled := flags.contains '0'
                  plus := flags.contains '+'
                  space := flags.contains ' ' }
              let position := total - rest.length - 1
              (convert layout (flags.contains '#') precision c position value).map
                fun t => (t, arguments, rest)

/-- Fills the rest of a template of the given length. Two percent signs are one. -/
def fillFrom (total : Nat) : (fuel : Nat) → Arguments → Text → Filled Message
  | 0, _, t => .ok (.ofText t)
  | fuel + 1, arguments, t =>
      match t with
      | [] =>
          if arguments.left.isEmpty || arguments.mapping.isSome then .ok []
          else .error .tooManyArguments
      | '%' :: '%' :: rest => (fillFrom total fuel arguments rest).map (some '%' :: ·)
      | '%' :: rest =>
          (fillDirective total arguments rest).bind fun (t, arguments, after) =>
            (fillFrom total fuel arguments after).map (t ++ ·)
      | c :: rest => (fillFrom total fuel arguments rest).map (some c :: ·)

/-- The message of a template and its arguments. -/
def formatMessage (template : Text) (arguments : List Json) : Filled Message :=
  if arguments.isEmpty then .ok (.ofText template)
  else fillFrom template.length (template.length + 1) (.ofList arguments) template

end NoteSearch.Log
