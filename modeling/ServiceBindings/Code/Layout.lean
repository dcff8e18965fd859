/-!
Laying out text in lines of limited width. A layout is a tree of words, possible line ends and boxes. A box that
fits on the line is written without line ends; in one that does not, either every line end of the box itself is
taken, or each that the words up to the next one would not fit before.
-/

namespace ServiceBindings.Code

/-- A place where a line may end. -/
structure Break where
  /-- blanks in place of the line end -/
  blanks : Nat := 0
  /-- how much further the next line is indented than the box -/
  offset : Int := 0
  /-- written before the line end -/
  before : Option Char := none
  /-- written at the beginning of the next line -/
  after : Option Char := none
  /-- written in place of the line end -/
  flat : Option Char := none
  /-- whether the line never ends here; such a place still separates what is measured -/
  never : Bool := false
  /-- whether the place counts only if something comes before the end of its box -/
  ifNonempty : Bool := false
  deriving DecidableEq, Repr

/-- A tree of words, possible line ends and boxes. -/
inductive Layout
  | text (s : String)
  | line (b : Break)
  /-- no words, but too wide for any line -/
  | wide
  /-- a box; when it does not fit, all its line ends are taken if it is consistent -/
  | box (consistent : Bool) (indent : Int) (items : List Layout)
  deriving Repr, Inhabited

namespace Layout

/-- The width of a line. -/
def margin : Int := 89

/-- The width that is assumed at least, however far the line is indented. -/
def leastSpace : Int := 60

/-- The step of indentation. -/
def step : Int := 4

/-- A number of columns that no line has. -/
def tooWide : Nat := 65535

mutual

/-- The width of a layout on one line, in bytes. -/
def width : Layout → Nat
  | .text s => s.utf8ByteSize
  | .line b => b.blanks
  | .wide => tooWide
  | .box _ _ items => widths items

/-- The width of layouts that follow each other. -/
def widths : List Layout → Nat
  | [] => 0
  | d :: ds => width d + widths ds

end

/-- The width of what has to fit on the line: up to the next possible line end outside of inner boxes. The first
argument is what follows the box. -/
def lead (following : Nat) : List Layout → Nat
  | [] => following
  | .line _ :: _ => 0
  | d :: ds => width d + lead following ds

/-- Removes a possible line end that stands last in a box and counts only after something. A box of one possible
line end vanishes. -/
def closed? : List Layout → Option (List Layout)
  | [.line _] => none
  | items =>
    match items.getLast? with
    | some (.line b) => if b.ifNonempty then some items.dropLast else some items
    | _ => some items

/-- How the line ends of a box are treated. -/
inductive Mode
  | fits
  | consistent
  | filled
  deriving DecidableEq, Repr

/-- What is written so far, last character first, and what is known of the line that is written. -/
structure Page where
  written : List Char := []
  /-- blanks that are due before the next word -/
  pending : Nat := 0
  /-- columns that are left on the line -/
  space : Int := margin
  deriving Repr

namespace Page

/-- Writes the blanks that are due. -/
def indent (p : Page) : Page :=
  { p with written := List.replicate p.pending ' ' ++ p.written, pending := 0 }

/-- Writes a word. -/
def word (p : Page) (s : String) : Page :=
  let p := p.indent
  { p with written := s.toList.reverse ++ p.written, space := p.space - s.utf8ByteSize }

/-- Writes a character without the blanks that are due. -/
def bare (p : Page) (c : Char) : Page :=
  { p with written := c :: p.written }

/-- Goes on without a line end. -/
def stay (p : Page) (b : Break) : Page :=
  let p := { p with pending := p.pending + b.blanks, space := p.space - b.blanks }
  match b.flat with
  | some c => { p.bare c with space := p.space - c.utf8Size }
  | none => p

/-- Ends the line in a box with the given indentation. -/
def newline (p : Page) (b : Break) (indentation : Int) : Page :=
  let p :=
    match b.before with
    | some c => p.indent.bare c
    | none => p
  let column := indentation + b.offset
  let p := { p with written := '\n' :: p.written, pending := column.toNat, space := max (margin - column) leastSpace }
  match b.after with
  | some c =>
    let p := p.indent.bare c
    { p with space := p.space - c.utf8Size }
  | none => p

end Page

mutual

/-- Writes a layout in a box of the given mode and indentation, where `rest` is the width of what has to follow on
the same line. -/
def write (mode : Mode) (indentation : Int) (rest : Nat) (p : Page) : Layout → Page
  | .text s => p.word s
  | .wide => p.indent
  | .line b =>
    let fits := b.never || mode == .fits || (mode == .filled && ((b.blanks + rest : Nat) : Int) ≤ p.space)
    if fits then p.stay b else p.newline b indentation
  | .box consistent indent items =>
    if p.space < ((widths items + rest : Nat) : Int) then
      writeAll (if consistent then .consistent else .filled) (indentation + indent) rest p items
    else writeAll .fits indentation rest p items

/-- Writes layouts that follow each other. -/
def writeAll (mode : Mode) (indentation : Int) (rest : Nat) (p : Page) : List Layout → Page
  | [] => p
  | d :: ds => writeAll mode indentation rest (write mode indentation (lead rest ds) p d) ds

end

/-- The text of layouts that follow each other. -/
def render (items : List Layout) : String :=
  String.ofList (writeAll .fits 0 0 {} items).written.reverse

/-! ### Shorthands -/

/-- A box all of whose line ends are taken or none. -/
def cbox (indent : Int) (items : List Layout) : List Layout :=
  match closed? items with
  | none => []
  | some items => [.box true indent items]

/-- A box whose line ends are taken where needed. -/
def ibox (indent : Int) (items : List Layout) : List Layout :=
  match closed? items with
  | none => []
  | some items => [.box false indent items]

/-- A box that is not written on one line if it is wider than `most`. -/
def cboxUpTo (most : Nat) (indent : Int) (items : List Layout) : List Layout :=
  if most < widths items then [.box true indent (items ++ [.wide])] else cbox indent items

/-- A word. -/
def word (s : String) : List Layout := [.text s]

/-- A possible line end without a blank. -/
def zeroBreak : Layout := .line {}

/-- A possible line end or a blank. -/
def space : Layout := .line { blanks := 1 }

/-- A certain line end. -/
def hardBreak : Layout := .line { blanks := tooWide }

/-- A certain line end in a box that is not empty. -/
def hardBreakIfNonempty : Layout := .line { blanks := tooWide, ifNonempty := true }

/-- A blank and possible line end in a box that is not empty. -/
def spaceIfNonempty : Layout := .line { blanks := 1, ifNonempty := true }

/-- A place that only separates what is measured. -/
def neverBreak : Layout := .line { never := true }

/-- Moves the line after the last line end of a list by an offset. -/
def outdent : List Layout → List Layout
  | [] => []
  | [.line b] => [.line { b with offset := b.offset - step }]
  | d :: ds => d :: outdent ds

/-- Elements with commas between them; where the lines end, a comma follows the last one too. -/
def commaSeparated (last : Break) : List (List Layout) → List Layout
  | [] => []
  | [d] => d ++ [.line { last with before := some ',' }]
  | d :: ds => d ++ [.text ",", space] ++ commaSeparated last ds

end Layout

end ServiceBindings.Code
