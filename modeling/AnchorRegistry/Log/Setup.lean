import AnchorRegistry.Log.Record
import AnchorRegistry.Text.Printable

/-! How the process logs: the style of its lines and the least level it shows. A level is named in either
case of letter, and an unknown name means `INFO`; two names stand for something that is no level, and
are refused. Setting up replaces what an earlier setup left, so doing it twice is doing it once. -/

namespace AnchorRegistry.Log

inductive Style where
  | json
  | plain
deriving DecidableEq

/-- The pattern that a line of the style follows. -/
def Style.pattern : Style → Text
  | .json => "%(message)s"
  | .plain => "%(asctime)s %(levelname)s %(name)s - %(message)s"

structure Setup where
  style : Style
  level : Level
deriving DecidableEq

/-- Why a name is no level: it stands for a pattern, or for the table of the marks in which patterns can be
written. -/
inductive LevelFault where
  | isPattern
  | isTable
deriving DecidableEq

/-- A mark that introduces a part of a pattern, what reads such patterns, and the plain pattern in it. -/
structure PatternMark where
  mark : Text
  reader : Text
  plain : Text

def patternMarks : List PatternMark :=
  [⟨"%", "logging.PercentStyle", "%(levelname)s:%(name)s:%(message)s"⟩,
    ⟨"\x7b", "logging.StrFormatStyle", "\x7blevelname\x7d:\x7bname\x7d:\x7bmessage\x7d"⟩,
    ⟨"$", "logging.StringTemplateStyle", "$\x7blevelname\x7d:$\x7bname\x7d:$\x7bmessage\x7d"⟩]

def PatternMark.shown (m : PatternMark) : Text :=
  m.mark.quoted false ++ (": (<class '" : Text) ++ m.reader ++ ("'>, " : Text) ++ m.plain.quoted false ++
    (")" : Text)

def LevelFault.message : LevelFault → Text
  | isPattern => ("Unknown level: " : Text) ++ ("%(levelname)s:%(name)s:%(message)s" : Text).quoted false
  | isTable =>
    ("Level not an integer or a valid string: \x7b" : Text) ++
      Text.join ", " (patternMarks.map PatternMark.shown) ++ ("\x7d" : Text)

/-- Letters in upper case as far as a name can tell: the ASCII ones, the dotless i, the long s and the two
ligatures of s and t. -/
def upperName (t : Text) : Text :=
  t.upperAscii.flatMap fun c =>
    if c.value = 0x131 then "I" else if c.value = 0x17F then "S"
    else if c.value = 0xFB05 ∨ c.value = 0xFB06 then "ST" else [c]

def levelNames : List (Text × Level) :=
  [("CRITICAL", ⟨50⟩), ("FATAL", ⟨50⟩), ("ERROR", ⟨40⟩), ("WARNING", ⟨30⟩), ("WARN", ⟨30⟩),
    ("INFO", ⟨20⟩), ("DEBUG", ⟨10⟩), ("NOTSET", ⟨0⟩)]

def levelOfName (name : Text) : Except LevelFault Level :=
  let name := upperName name
  if name = ("BASIC_FORMAT" : Text) then .error .isPattern
  else if name = ("_STYLES" : Text) then .error .isTable
  else .ok ((lastValue? name levelNames).getD .info)

def setUp (levelName style : Text) : Except LevelFault Setup :=
  (levelOfName levelName).map fun level =>
    ⟨if style = ("json" : Text) then .json else .plain, level⟩

end AnchorRegistry.Log
