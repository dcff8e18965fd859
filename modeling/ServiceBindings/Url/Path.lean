import ServiceBindings.Url.Percent

/-!
Paths. A path is a list of segments, each written after a slash. Reading one resolves the segments `.` and `..`;
appending texts to one encodes them, so that each becomes a single segment, and reads the result in the same way.
-/

namespace ServiceBindings.Url

/-- A segment of a path, as it is written. -/
abbrev Segment := List Char

/-- How a scheme reads paths: whether it is special, which makes the backslash a separator, and whether it is the one
of files, where the letter of a drive may begin a path. -/
structure PathRule where
  special : Bool
  file : Bool
  deriving DecidableEq, Repr

/-- The text of a list of segments. -/
def segmentsText (segments : List Segment) : List Char :=
  segments.flatMap ('/' :: ·)

/-- A segment in which the code of a full stop is written as a full stop. -/
def plainStops : List Char → List Char
  | '%' :: '2' :: 'e' :: rest => '.' :: plainStops rest
  | '%' :: '2' :: 'E' :: rest => '.' :: plainStops rest
  | c :: rest => c :: plainStops rest
  | [] => []

/-- Whether a segment is the letter of a drive: a letter and a colon, or the bar that stands for it. -/
def isDrive : Segment → Bool
  | [a, b] => a.isAlpha && (b = ':' || b = '|')
  | _ => false

/-- Whether a segment begins with the letter of a drive, and so cannot be left. -/
def beginsWithDrive : Segment → Bool
  | [a, b] => isDrive [a, b]
  | a :: b :: '\\' :: _ => isDrive [a, b]
  | _ => false

/-- The folder above. The root has none, and a drive is not left. -/
def parentFolder (folders : List Segment) : List Segment :=
  match folders.getLast? with
  | some l => if beginsWithDrive l then folders else folders.dropLast
  | none => []

/-- Where a segment leads from a folder: the folder there, and the segment left over in it. -/
def resolve (rule : PathRule) (folders : List Segment) (segment : Segment) : List Segment × Segment :=
  match plainStops segment with
  | ['.'] => (folders, [])
  | ['.', '.'] => (parentFolder folders, [])
  | _ => (folders, if rule.file && folders.isEmpty && isDrive segment then segment.take 1 ++ [':'] else segment)

/-- Goes through a segment that a slash follows. -/
def enterSegment (rule : PathRule) (folders : List Segment) (segment : Segment) : List Segment :=
  match plainStops segment with
  | ['.'] | ['.', '.'] => (resolve rule folders segment).1
  | _ => folders ++ [(resolve rule folders segment).2]

/-- Ends a path with a segment. -/
def endPath (rule : PathRule) (folders : List Segment) (segment : Segment) : List Segment :=
  let (folders, leaf) := resolve rule folders segment
  folders ++ [leaf]

/-- A path without the empty segments at its beginning, of which a file has none. -/
def dropEmptyFront : List Segment → List Segment
  | [] :: s :: rest => dropEmptyFront (s :: rest)
  | segments => segments

/-- Applies the rule for files. -/
def normalizeFront (rule : PathRule) (segments : List Segment) : List Segment :=
  if rule.file then dropEmptyFront segments else segments

/-- Whether a character separates segments. -/
def isSeparator (rule : PathRule) (c : Char) : Bool :=
  c = '/' || (rule.special && c = '\\')

/-- The path that a text after the first slash denotes, before the rule for files. -/
def readSegments (rule : PathRule) (text : List Char) : List Segment :=
  let parts := (text.splitOnP (isSeparator rule)).map (percentEncode pathSet)
  endPath rule (parts.dropLast.foldl (enterSegment rule) []) (parts.getLast?.getD [])

/-- A path without one empty segment at its end. The root stays. -/
def dropEmptyEnd (segments : List Segment) : List Segment :=
  if segments.getLast? = some [] ∧ segments.length ≠ 1 then segments.dropLast else segments

/-- A segment's text without the characters that addresses leave out: tabulators and line ends. -/
def withoutLineEnds (text : List Char) : List Char :=
  text.filter fun c => !(c = '\t' || c = '\n' || c = '\r')

/-- Appends a text to a path. The texts `.` and `..` are left out. Any other is encoded and becomes one segment, in
the place of the empty one if the path is the root. -/
def appendText (rule : PathRule) (segments : List Segment) (text : List Char) : List Segment :=
  if text = ['.'] ∨ text = ['.', '.'] then segments
  else
    let folders := if segments = [[]] then [] else segments
    let segment := percentEncode (segmentSet rule.special) (withoutLineEnds text)
    normalizeFront rule (endPath rule folders segment)

/-- Appends texts to a path, in the place of an empty segment at its end. -/
def appendTexts (rule : PathRule) (segments : List Segment) (texts : List (List Char)) : List Segment :=
  texts.foldl (appendText rule) (dropEmptyEnd segments)

theorem endPath_ne_nil (rule : PathRule) (folders : List Segment) (segment : Segment) :
    endPath rule folders segment ≠ [] := by
  simp [endPath]

theorem dropEmptyFront_ne_nil {segments : List Segment} (h : segments ≠ []) : dropEmptyFront segments ≠ [] := by
  fun_induction dropEmptyFront segments with
  | case1 s rest ih => exact ih (by simp)
  | case2 segments => exact h

theorem normalizeFront_ne_nil (rule : PathRule) {segments : List Segment} (h : segments ≠ []) :
    normalizeFront rule segments ≠ [] := by
  unfold normalizeFront
  split
  · exact dropEmptyFront_ne_nil h
  · exact h

theorem readSegments_ne_nil (rule : PathRule) (text : List Char) : readSegments rule text ≠ [] :=
  endPath_ne_nil rule _ _

theorem dropEmptyEnd_ne_nil {segments : List Segment} (h : segments ≠ []) : dropEmptyEnd segments ≠ [] := by
  unfold dropEmptyEnd
  split
  · next hc =>
    match segments, h, hc with
    | [_], _, ⟨_, hn⟩ => simp at hn
    | _ :: _ :: _, _, _ => simp
  · exact h

theorem appendText_ne_nil (rule : PathRule) {segments : List Segment} (h : segments ≠ []) (text : List Char) :
    appendText rule segments text ≠ [] := by
  unfold appendText
  split
  · exact h
  · exact normalizeFront_ne_nil rule (endPath_ne_nil rule _ _)

theorem foldl_appendText_ne_nil (rule : PathRule) {segments : List Segment} (h : segments ≠ [])
    (texts : List (List Char)) : texts.foldl (appendText rule) segments ≠ [] := by
  induction texts generalizing segments with
  | nil => exact h
  | cons t ts ih => exact ih (appendText_ne_nil rule h t)

theorem appendTexts_ne_nil (rule : PathRule) {segments : List Segment} (h : segments ≠ [])
    (texts : List (List Char)) : appendTexts rule segments texts ≠ [] :=
  foldl_appendText_ne_nil rule (dropEmptyEnd_ne_nil h) texts

end ServiceBindings.Url
