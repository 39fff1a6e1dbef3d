import AnchorRegistry.Double.Fixed
import AnchorRegistry.Number
import AnchorRegistry.Text.Printable

/-! Message templates. A placeholder is a percent sign, flags, a least width, a precision and a letter that
says how the next argument is shown; `*` takes a width or precision from the arguments. A record without
arguments shows its message verbatim, so a percent sign in a client's text is never a placeholder. -/

namespace AnchorRegistry.Log

inductive Argument where
  | nothing
  | truth (b : Bool)
  | number (n : Number)
  | text (t : Text)
deriving DecidableEq

/-- The two numbers that a placeholder may give. -/
inductive Amount where
  | width
  | precision
deriving DecidableEq

namespace Amount

def name : Amount → Text
  | width => "width"
  | precision => "precision"

/-- Amounts lie below their limit, and those from the arguments not below its opposite. -/
def limit : Amount → Nat
  | width => Nat.pow 2 63
  | precision => Nat.pow 2 31

end Amount

/-- Why a template cannot be filled. -/
inductive TemplateError where
  | incomplete
  | tooFewArguments
  | tooManyArguments
  | needsMapping
  | starNeedsInt
  | unsupported (letter : CodePoint) (position : Nat)
  | needsInteger (letter : CodePoint) (got : Text)
  | needsNumber (letter : CodePoint) (got : Text)
  | needsReal (got : Text)
  | needsCharacter
  | noWholePart (infinite : Bool)
  | notACodePoint
  | tooLargeForDouble
  | tooLarge (amount : Amount)
  | starTooLarge (amount : Amount)
  | tooManyDigits
  | tooLong
deriving DecidableEq

namespace Argument

/-- The name of the argument's type, for error messages. -/
def typeName : Argument → Text
  | nothing => "NoneType"
  | truth _ => "bool"
  | number (.int _) => "int"
  | number (.double _) => "float"
  | text _ => "str"

def shown : Argument → Text
  | nothing => "None"
  | truth b => if b then "True" else "False"
  | number n => n.toText
  | text t => t

/-- Like `shown`, with texts in quotes. -/
def quoted (asciiOnly : Bool) : Argument → Text
  | text t => t.quoted asciiOnly
  | a => a.shown

def int? : Argument → Option Int
  | truth b => some (if b then 1 else 0)
  | number (.int n) => some n
  | _ => none

end Argument

structure Flags where
  left : Bool := false
  plus : Bool := false
  space : Bool := false
  alternate : Bool := false
  zero : Bool := false

/-- A placeholder whose width and precision are known. -/
structure Placeholder where
  flags : Flags
  width : Nat
  precision : Option Nat
  letter : CodePoint
  position : Nat

/-- A shown number: its sign, a mark of its base, and its digits. -/
structure Signed where
  negative : Bool
  mark : Text
  digits : Text

namespace Placeholder

/-- Fills up to the width with spaces. -/
def padText (p : Placeholder) (t : Text) : Text :=
  if p.flags.left then t.padRight p.width ' ' else t.padLeft p.width ' '

/-- Fills up to the width; zeros go between the sign and the digits. -/
def padSigned (p : Placeholder) (n : Signed) : Text :=
  let sign : Text :=
    if n.negative then "-" else if p.flags.plus then "+" else if p.flags.space then " " else []
  let start := sign ++ n.mark
  if p.flags.left then (start ++ n.digits).padRight p.width ' '
  else if p.flags.zero then start ++ n.digits.padLeft (p.width - start.length) '0'
  else (start ++ n.digits).padLeft p.width ' '

/-- No text longer than this is filled in. -/
def longestText : Nat := Nat.pow 2 30

def ofInt (p : Placeholder) (base : Nat) (mark : Text) (n : Int) : Except TemplateError Text :=
  let digits := p.precision.getD 0
  if Amount.precision.limit ≤ digits + 3 then .error .tooManyDigits
  else if longestText < digits then .error .tooLong
  else .ok (p.padSigned ⟨n < 0, mark, (Text.ofNatIn base n.natAbs).padLeft digits '0'⟩)

/-- A whole number in base ten; a double loses its fraction. -/
def decimal (p : Placeholder) (a : Argument) : Except TemplateError Text :=
  match a, a.int? with
  | _, some n => p.ofInt 10 [] n
  | .number (.double d), _ =>
    match d.truncate? with
    | some n => p.ofInt 10 [] n
    | none => .error (.noWholePart (d ≠ .nan))
  | a, _ => .error (.needsNumber p.letter a.typeName)

/-- A whole number in a base that is a power of two. -/
def binaryBase (p : Placeholder) (base : Nat) (mark : Text) (upper : Bool) (a : Argument) :
    Except TemplateError Text :=
  match a.int? with
  | some n =>
    (p.ofInt base (if p.flags.alternate then mark else []) n).map fun t =>
      if upper then t.upperAscii else t
  | none => .error (.needsInteger p.letter a.typeName)

/-- How many digits a double is shown with. In scientific form the first digit comes on top, and the
largest precision leaves no room for it: then the first digit is the only one. -/
def places (p : Placeholder) (letter : CodePoint) : Nat :=
  let precision := p.precision.getD 6
  if letter = 'e' ∧ precision + 1 = Amount.precision.limit then 0 else precision

/-- The digits of a finite double under the placeholder's letter in lower case. -/
def realDigits (p : Placeholder) (letter : CodePoint) (units : Nat) : Except TemplateError Text :=
  let places := p.places letter
  let point : Text := if p.flags.alternate && places == 0 then "." else []
  if longestText < places ∧ (letter ≠ 'g' ∨ p.flags.alternate) then .error .tooLong
  else if letter = 'f' then .ok (Double.fixed places units ++ point)
  else if letter = 'e' then
    let t := Double.scientific places units
    .ok (t.takeWhile (fun c => c != ('e' : CodePoint)) ++ point ++
      t.dropWhile (fun c => c != ('e' : CodePoint)))
  else .ok (Double.general p.flags.alternate places units)

def real (p : Placeholder) (upper : Bool) (letter : CodePoint) (a : Argument) :
    Except TemplateError Text :=
  let double : Except TemplateError Double :=
    match a, a.int? with
    | .number (.double d), _ => .ok d
    | _, some n =>
      match Double.ofInt? n with
      | some d => .ok d
      | none => .error .tooLargeForDouble
    | a, _ => .error (.needsReal a.typeName)
  match double with
  | .error e => .error e
  | .ok d =>
    let n : Except TemplateError Signed :=
      match d with
      | .nan => .ok ⟨false, [], "nan"⟩
      | .infinite negative => .ok ⟨negative, [], "inf"⟩
      | .finite negative units _ =>
        (p.realDigits letter units).map fun digits => ⟨negative, [], digits⟩
    n.map fun n => p.padSigned (if upper then { n with digits := n.digits.upperAscii } else n)

def character (p : Placeholder) : Argument → Except TemplateError Text
  | .text [c] => .ok (p.padText [c])
  | a =>
    match a.int? with
    | some (.ofNat n) =>
      match CodePoint.ofNat? n with
      | some c => .ok (p.padText [c])
      | none => .error .notACodePoint
    | some _ => .error .notACodePoint
    | none => .error .needsCharacter

/-- Text cut to the precision. -/
def cut (p : Placeholder) (t : Text) : Text :=
  p.padText (match p.precision with | some n => t.take n | none => t)

/-- Shows an argument under the placeholder's letter. -/
def showUnder (p : Placeholder) (a : Argument) : Except TemplateError Text :=
  let c := p.letter
  if c = 's' then .ok (p.cut a.shown)
  else if c = 'r' then .ok (p.cut (a.quoted false))
  else if c = 'a' then .ok (p.cut (a.quoted true))
  else if c = 'd' ∨ c = 'i' ∨ c = 'u' then p.decimal a
  else if c = 'x' then p.binaryBase 16 "0x" false a
  else if c = 'X' then p.binaryBase 16 "0x" true a
  else if c = 'o' then p.binaryBase 8 "0o" false a
  else if c = 'e' ∨ c = 'f' ∨ c = 'g' then p.real false c a
  else if c = 'E' then p.real true 'e' a
  else if c = 'F' then p.real true 'f' a
  else if c = 'G' then p.real true 'g' a
  else if c = 'c' then p.character a
  else .error (.unsupported c p.position)

/-- Shows an argument. An excessive width is no fault of its own before all else is right. -/
def fill (p : Placeholder) (a : Argument) : Except TemplateError Text :=
  if p.width ≤ longestText then p.showUnder a
  else
    match { p with width := 0 }.showUnder a with
    | .error e => .error e
    | .ok _ => .error .tooLong

end Placeholder

def setFlag? (c : CodePoint) (flags : Flags) : Option Flags :=
  if c = '-' then some { flags with left := true }
  else if c = '+' then some { flags with plus := true }
  else if c = ' ' then some { flags with space := true }
  else if c = '#' then some { flags with alternate := true }
  else if c = '0' then some { flags with zero := true }
  else none

def readFlags (flags : Flags) : Text → Flags × Text
  | [] => (flags, [])
  | c :: rest =>
    match setFlag? c flags with
    | some flags => readFlags flags rest
    | none => (flags, c :: rest)

/-- Reads digits, or takes the next argument for a star. -/
def readAmount (amount : Amount) (t : Text) (arguments : List Argument) :
    Except TemplateError (Int × Text × List Argument) :=
  match t with
  | c :: rest =>
    if c = '*' then
      match arguments with
      | [] => .error .tooFewArguments
      | a :: more =>
        match a.int? with
        | some n =>
          if -amount.limit ≤ n ∧ n < amount.limit then .ok (n, rest, more)
          else .error (.starTooLarge amount)
        | none => .error .starNeedsInt
    else
      let digits := t.takeWhile CodePoint.isAsciiDigit
      let n := Text.ofDigits 10 (digits.map fun c => c.value - '0'.toNat)
      if n < amount.limit then .ok (n, t.dropWhile CodePoint.isAsciiDigit, arguments)
      else .error (.tooLarge amount)
  | [] => .ok (0, [], arguments)

/-- The width that an amount asks for. The least amount has no opposite and asks for none. -/
def widthOf (n : Int) : Nat := if n = -Amount.width.limit then 0 else n.natAbs

def isLengthLetter (c : CodePoint) : Bool :=
  c = ('h' : CodePoint) || c = ('l' : CodePoint) || c = ('L' : CodePoint)

/-- Reads a placeholder after its percent sign; `total` is the length of the template. -/
def readPlaceholder (total : Nat) (t : Text) (arguments : List Argument) :
    Except TemplateError (Placeholder × Text × List Argument) :=
  let (flags, t) := readFlags {} t
  if t.head? = some ('(' : CodePoint) then .error .needsMapping
  else
    match readAmount .width t arguments with
    | .error e => .error e
    | .ok (width, t, arguments) =>
      let flags := if width < 0 then { flags with left := true } else flags
      let precision : Except TemplateError (Option Nat × Text × List Argument) :=
        match t with
        | c :: rest =>
          if c = '.' then
            match readAmount .precision rest arguments with
            | .error e => .error e
            | .ok (precision, t, arguments) => .ok (some precision.toNat, t, arguments)
          else .ok (none, t, arguments)
        | [] => .ok (none, [], arguments)
      match precision with
      | .error e => .error e
      | .ok (precision, t, arguments) =>
        match t with
        | [] => .error .incomplete
        | c :: rest =>
          match if isLengthLetter c then rest else c :: rest with
          | [] => .error .incomplete
          | letter :: rest =>
            .ok (⟨flags, widthOf width, precision, letter, total - rest.length - 1⟩, rest, arguments)

/-- Fills a template from left to right. Every step reads at least one code point, so fuel of the length
of the template is enough. -/
def fillFrom (total : Nat) : (fuel : Nat) → Text → List Argument → Except TemplateError Text
  | 0, _, _ => .ok []
  | _, [], [] => .ok []
  | _, [], _ :: _ => .error .tooManyArguments
  | fuel + 1, c :: rest, arguments =>
    if c = '%' then
      if rest.head? = some ('%' : CodePoint) then
        (fillFrom total fuel (rest.drop 1) arguments).map (('%' : CodePoint) :: ·)
      else
        match readPlaceholder total rest arguments with
        | .error e => .error e
        | .ok (_, _, []) => .error .tooFewArguments
        | .ok (p, rest, a :: more) =>
          match p.fill a with
          | .error e => .error e
          | .ok shown => (fillFrom total fuel rest more).map (shown ++ ·)
    else (fillFrom total fuel rest arguments).map (c :: ·)

/-- The message of a record: the template itself if there are no arguments. -/
def fillTemplate (template : Text) (arguments : List Argument) : Except TemplateError Text :=
  if arguments = [] then .ok template
  else fillFrom template.length (template.length + 1) template arguments

namespace TemplateError

/-- Whether the template itself is at fault, and not an argument's type or number. -/
def isMalformed : TemplateError → Bool
  | incomplete | unsupported .. | noWholePart false | tooLarge _ => true
  | _ => false

def isOverflow : TemplateError → Bool
  | noWholePart true | notACodePoint | tooLargeForDouble | starTooLarge _ | tooManyDigits => true
  | _ => false

def isExcess : TemplateError → Bool
  | tooLong => true
  | _ => false

def message : TemplateError → Text
  | incomplete => "incomplete format"
  | tooFewArguments => "not enough arguments for format string"
  | tooManyArguments => "not all arguments converted during string formatting"
  | needsMapping => "format requires a mapping"
  | starNeedsInt => "* wants int"
  | unsupported letter position =>
    ("unsupported format character '" : Text) ++ [if letter.within 0x20 0x7E then letter else '?'] ++
      ("' (0x" : Text) ++ Text.ofNatIn 16 letter.value ++ (") at index " : Text) ++ Text.ofNat position
  | needsInteger letter got =>
    ("%" : Text) ++ [letter] ++ (" format: an integer is required, not " : Text) ++ got
  | needsNumber letter got =>
    ("%" : Text) ++ [letter] ++ (" format: a real number is required, not " : Text) ++ got
  | needsReal got => ("must be real number, not " : Text) ++ got
  | needsCharacter => "%c requires int or char"
  | noWholePart true => "cannot convert float infinity to integer"
  | noWholePart false => "cannot convert float NaN to integer"
  | notACodePoint => "%c arg not in range(0x110000)"
  | tooLargeForDouble => "int too large to convert to float"
  | tooLarge amount => amount.name ++ (" too big" : Text)
  | starTooLarge .width => "Python int too large to convert to C ssize_t"
  | starTooLarge .precision => "Python int too large to convert to C int"
  | tooManyDigits => "precision too large"
  | tooLong => []

end TemplateError

end AnchorRegistry.Log
