import ExchangeWallet.Proofs.Text.Runs
import ExchangeWallet.Proofs.Trust.Base64
import ExchangeWallet.Trust.Pem
/-!
# Files made of blocks

A file is laid out as ordinary lines and blocks in any order. It may be cut off inside a last
block. Reading such a file gives what its blocks give, one after the other, up to the first
that is refused; the lines between them give nothing, and a block that is cut off is a fault
once everything in front of it could be read.

The lines of a body may be any that neither open a section nor close this one. A body of
base64 has no others, since it has no dash.
-/
namespace ExchangeWallet.Trust.Pem

section Lines

/-- A line, with the byte that ends it. The last line of a file can lack that. -/
structure Line where
  content : List UInt8
  ending : Option UInt8
  plain : ∀ byte ∈ content, isLineEnd byte = false
  ends : ∀ byte ∈ ending, isLineEnd byte = true
  nonempty : content ≠ [] ∨ ending ≠ none

/-- Bytes none of which is found to end a line are within one. -/
theorem plain_of_all {bytes : List UInt8}
    (all : bytes.all (fun byte => !isLineEnd byte) = true) :
    ∀ byte ∈ bytes, isLineEnd byte = false := by
  simpa using all

/-- The line that says this and ends with a line feed. -/
def Line.ofContent (content : List UInt8) (plain : ∀ byte ∈ content, isLineEnd byte = false) :
    Line where
  content := content
  ending := some 0x0A
  plain := plain
  ends := fun _ isEnding => Option.mem_some.mp isEnding ▸ rfl
  nonempty := .inr (Option.some_ne_none _)

/-- The bytes of a line. -/
def Line.bytes (line : Line) : List UInt8 :=
  line.content ++ line.ending.toList

variable {content : List UInt8}

/-- Bytes without a line end are one line. -/
theorem lines_of_plain (plain : ∀ byte ∈ content, isLineEnd byte = false)
    (nonempty : content ≠ []) : lines content = [content] := by
  induction content with
  | nil => exact absurd rfl nonempty
  | cons byte rest inductionHypothesis =>
    obtain ⟨first, others⟩ := List.forall_mem_cons.mp plain
    rw [lines, first]
    cases rest with
    | nil => rfl
    | cons next more =>
      rw [inductionHypothesis others (List.cons_ne_nil next more)]
      rfl

/-- A line ends behind the first line end. -/
theorem lines_append (plain : ∀ byte ∈ content, isLineEnd byte = false) {ending : UInt8}
    (ends : isLineEnd ending = true) (rest : List UInt8) :
    lines (content ++ ending :: rest) = (content ++ [ending]) :: lines rest := by
  induction content with
  | nil =>
    rw [List.nil_append, lines, if_pos ends]
    rfl
  | cons byte others inductionHypothesis =>
    obtain ⟨first, behind⟩ := List.forall_mem_cons.mp plain
    rw [List.cons_append, lines, first, inductionHypothesis behind]
    rfl

/-- A single line is one line. -/
theorem lines_bytes (line : Line) : lines line.bytes = [line.bytes] := by
  cases last : line.ending with
  | none =>
    have nonempty : line.content ≠ [] := line.nonempty.resolve_right fun ended => ended last
    rw [Line.bytes, last, Option.toList_none, List.append_nil,
      lines_of_plain line.plain nonempty]
  | some ending =>
    rw [Line.bytes, last, Option.toList_some, lines_append line.plain (line.ends ending last)]
    rfl

/-- A file that is put together from lines has these lines. -/
theorem lines_flatMap_bytes {written : List Line}
    (ended : ∀ line ∈ written.dropLast, line.ending.isSome) :
    lines (written.flatMap Line.bytes) = written.map Line.bytes := by
  induction written with
  | nil => rfl
  | cons line rest inductionHypothesis =>
    cases rest with
    | nil => rw [List.flatMap_singleton, lines_bytes, List.map_singleton]
    | cons next more =>
      obtain ⟨first, behind⟩ := List.forall_mem_cons.mp ended
      obtain ⟨ending, last⟩ := Option.isSome_iff_exists.mp first
      have ends := line.ends ending last
      rw [List.flatMap_cons, List.map_cons, Line.bytes, last, Option.toList_some,
        List.append_assoc, List.singleton_append, lines_append line.plain ends,
        inductionHypothesis behind]

end Lines

section Marks

/-- The space. -/
def space : UInt8 :=
  0x20

/-- A label stands on one line. It does not end in a dash, spaces at its end aside, since its
line would have more than five dashes at the end then and open no section. -/
structure IsLabel (label : List UInt8) : Prop where
  plain : ∀ byte ∈ label, isLineEnd byte = false
  noDash : (label.rdropWhile (· == space)).getLast? ≠ some dash

/-- The labels of the known kinds are labels. -/
theorem Kind.isLabel (kind : Kind) : IsLabel (Text.bytes kind.label) := by
  cases kind <;> exact ⟨plain_of_all (by decide), by decide⟩

/-- A mark that does not end in a line end is found in a line exactly if it is found in what
the line says. -/
theorem isPrefixOf_bytes_iff {mark : List UInt8} {last : UInt8} (ends : mark.getLast? = some last)
    (plain : isLineEnd last = false) (line : Line) :
    mark.isPrefixOf line.bytes = true ↔ mark <+: line.content := by
  rw [List.isPrefixOf_iff_prefix, Line.bytes]
  cases ended : line.ending with
  | none => rw [Option.toList_none, List.append_nil]
  | some ending =>
    rw [Option.toList_some, List.prefix_concat_iff]
    refine or_iff_right ?_
    rintro rfl
    obtain rfl : ending = last := by simpa using ends
    cases (line.ends ending ended).symm.trans plain

/-- An opening mark is found in what a line says. -/
theorem openingMark_isPrefixOf_iff (line : Line) :
    openingMark.isPrefixOf line.bytes = true ↔ openingMark <+: line.content :=
  isPrefixOf_bytes_iff (show openingMark.getLast? = some space by decide) rfl line

/-- A closing mark is found in what a line says. -/
theorem closingMark_isPrefixOf_iff (label : List UInt8) (line : Line) :
    (closingMark label).isPrefixOf line.bytes = true ↔ closingMark label <+: line.content := by
  have last : (closingMark label).getLast? = some dash := by
    rw [closingMark, List.getLast?_append]
    rfl
  exact isPrefixOf_bytes_iff last rfl line

/-- No line opens one section and closes another. The marks differ in their first letter. -/
theorem not_openingMark_prefix {label content : List UInt8}
    (closes : closingMark label <+: content) : ¬ openingMark <+: content := by
  rintro ⟨behind, opens⟩
  obtain ⟨rest, same⟩ := closes
  have closing : (closingMark label ++ rest)[5]? = some 0x45 := rfl
  have opening : (openingMark ++ behind)[5]? = some 0x42 := rfl
  rw [same, ← opens, opening] at closing
  exact absurd closing (by decide)

/-- What is left of a label without the spaces at its end does not end in a dash or a filler. -/
theorem IsLabel.exists_core {label : List UInt8} (isLabel : IsLabel label) :
    ∃ core spaces, label = core ++ spaces ∧ (∀ byte ∈ spaces, byte = space) ∧
      ∀ byte ∈ core.getLast?, byte ≠ dash ∧ isFiller byte = false := by
  refine ⟨label.rdropWhile (· == space), label.rtakeWhile (· == space), ?_, ?_, ?_⟩
  · exact (List.rdropWhile_append_rtakeWhile ..).symm
  · intro byte member
    exact eq_of_beq (List.mem_rtakeWhile_imp (p := (· == space)) member)
  · intro byte last
    obtain ⟨nonempty, rfl⟩ := List.mem_getLast?_eq_getLast last
    have noSpace := List.rdropWhile_last_not (· == space) label nonempty
    have plain := isLabel.plain _
      ((List.rdropWhile_prefix (· == space) label).subset (List.getLast_mem nonempty))
    constructor
    · intro isDash
      exact isLabel.noDash (isDash ▸ last)
    · rw [isFiller, plain, Bool.or_false]
      exact Bool.eq_false_iff.mpr noSpace

/-- From its end, a line is read up to a byte that is neither a dash nor a filler. -/
theorem takeWhile_reverse_append {core behind : List UInt8}
    (last : ∀ byte ∈ core.getLast?, byte ≠ dash ∧ isFiller byte = false)
    (inside : ∀ byte ∈ behind, byte = dash ∨ isFiller byte = true) :
    (core ++ behind).reverse.takeWhile (fun byte => byte == dash || isFiller byte) =
      behind.reverse := by
  rw [List.reverse_append]
  refine (Text.takeWhile_run ?_ ?_).1
  · intro byte member
    rw [Bool.or_eq_true, beq_iff_eq]
    exact inside byte (List.mem_reverse.mp member)
  · intro byte first
    rw [List.head?_reverse] at first
    obtain ⟨noDash, noFiller⟩ := last byte first
    simp [noDash, noFiller]

/-- Five dashes behind a label, with fillers behind them, leave the label. The spaces at its
end are read over together with the dashes, and given back. -/
theorem openedLabel?_of_isLabel {label fillers : List UInt8} (isLabel : IsLabel label)
    (filling : ∀ byte ∈ fillers, isFiller byte = true) :
    openedLabel? (label ++ List.replicate 5 dash ++ fillers) = some label := by
  obtain ⟨core, spaces, rfl, areSpaces, last⟩ := isLabel.exists_core
  have spacing : ∀ byte ∈ spaces, isFiller byte = true := by
    intro byte member
    rw [areSpaces byte member]
    rfl
  have ending : (core ++ (spaces ++ (List.replicate 5 dash ++ fillers))).reverse.takeWhile
      (fun byte => byte == dash || isFiller byte) =
        (spaces ++ (List.replicate 5 dash ++ fillers)).reverse := by
    refine takeWhile_reverse_append last ?_
    simp only [List.forall_mem_append]
    exact ⟨fun byte member => .inr (spacing byte member),
      fun _ member => .inl (List.eq_of_mem_replicate member),
      fun byte member => .inr (filling byte member)⟩
  have dropped : (spaces ++ (List.replicate 5 dash ++ fillers)).dropWhile isFiller =
      List.replicate 5 dash ++ fillers := by
    refine (Text.takeWhile_run spacing ?_).2
    intro byte first
    obtain rfl : dash = byte := Option.some.inj first
    decide
  have count : (spaces ++ (List.replicate 5 dash ++ fillers)).count dash = 5 := by
    have noDash {bytes : List UInt8} (filling : ∀ byte ∈ bytes, isFiller byte = true) :
        bytes.count dash = 0 :=
      List.count_eq_zero.mpr fun member => absurd (filling dash member) (by decide)
    rw [List.count_append, List.count_append, noDash spacing, noDash filling,
      List.count_replicate_self]
  rw [List.append_assoc, List.append_assoc, openedLabel?, ending]
  simp only [List.reverse_reverse, dropped, List.count_reverse, count, if_true]
  rw [← List.append_assoc core, List.length_append, Nat.add_sub_cancel, List.take_left]

end Marks

section Blocks

/-- A section as far as it is written: the line that opens it, which may have spaces at its
end, and the lines behind that line. -/
structure Begun where
  label : List UInt8
  isLabel : IsLabel label
  opening : Line
  opens : ∃ spaces, opening.content =
    openingMark ++ (label ++ List.replicate 5 dash ++ List.replicate spaces space)
  body : List Line

namespace Begun

/-- The lines of a section. -/
def lines (begun : Begun) : List Line :=
  begun.opening :: begun.body

/-- The text of a section. -/
def text (begun : Begun) : List UInt8 :=
  begun.body.flatMap Line.bytes

/-- No line of the body opens a section or closes this one. -/
def IsEnclosed (begun : Begun) : Prop :=
  ∀ line ∈ begun.body,
    ¬ openingMark <+: line.content ∧ ¬ closingMark begun.label <+: line.content

end Begun

/-- A section with the line that closes it. -/
structure Block extends Begun where
  closing : Line
  closes : closingMark label <+: closing.content

namespace Block

/-- The block of a label and a body. -/
def ofBody (label : List UInt8) (isLabel : IsLabel label) (body : List Line) : Block where
  label := label
  isLabel := isLabel
  opening := .ofContent (openingMark ++ (label ++ List.replicate 5 dash)) <| by
    simp only [List.forall_mem_append]
    exact ⟨plain_of_all (by decide), isLabel.plain, plain_of_all (by decide)⟩
  opens := ⟨0, by rw [List.replicate_zero, List.append_nil]; rfl⟩
  body := body
  closing := .ofContent (closingMark label) <| by
    simp only [closingMark, List.forall_mem_append]
    exact ⟨⟨plain_of_all (by decide), isLabel.plain⟩, plain_of_all (by decide)⟩
  closes := List.prefix_rfl

/-- The lines of a block. -/
def lines (block : Block) : List Line :=
  block.toBegun.lines ++ [block.closing]

/-- What a block gives: nothing if its label is not known, and otherwise its decoded text. -/
def sections (block : Block) : Except Fault (List Section) :=
  match Kind.ofLabel? block.label with
  | none => .ok []
  | some kind =>
    ((Base64.decode block.text).mapError .body).map fun contents => [⟨kind, contents⟩]

end Block

variable {text : List UInt8} {rest : List (List UInt8)}

/-- A line that opens a section makes it the open one. It keeps the text of one that has been
open. -/
theorem sectionsBehind_opening (begun : Begun) (opened : Option Opened) :
    sectionsBehind opened (begun.opening.bytes :: rest) =
      sectionsBehind (some ⟨begun.label, (opened.map Opened.text).getD []⟩) rest := by
  obtain ⟨spaces, opens⟩ := begun.opens
  have marked : openingMark <+: begun.opening.content := opens ▸ List.prefix_append ..
  have behindMark : begun.opening.bytes.drop openingMark.length =
      begun.label ++ List.replicate 5 dash ++
        (List.replicate spaces space ++ begun.opening.ending.toList) := by
    rw [Line.bytes, opens, List.append_assoc, List.drop_left, List.append_assoc]
  have filling : ∀ byte ∈ List.replicate spaces space ++ begun.opening.ending.toList,
      isFiller byte = true := by
    intro byte member
    rcases List.mem_append.mp member with inSpaces | isEnding
    · rw [List.eq_of_mem_replicate inSpaces]
      rfl
    · rw [isFiller, begun.opening.ends byte (Option.mem_toList.mp isEnding), Bool.or_true]
  rw [sectionsBehind.eq_def]
  dsimp only
  rw [if_pos ((openingMark_isPrefixOf_iff _).mpr marked), behindMark,
    openedLabel?_of_isLabel begun.isLabel filling]

/-- A line in a section that neither opens nor closes one is put to the text. -/
theorem sectionsBehind_inside {label : List UInt8} {line : Line}
    (noOpening : ¬ openingMark <+: line.content)
    (noClosing : ¬ closingMark label <+: line.content) :
    sectionsBehind (some ⟨label, text⟩) (line.bytes :: rest) =
      sectionsBehind (some ⟨label, text ++ line.bytes⟩) rest := by
  rw [sectionsBehind.eq_def]
  dsimp only
  rw [if_neg (mt (openingMark_isPrefixOf_iff line).mp noOpening),
    if_neg (mt (closingMark_isPrefixOf_iff label line).mp noClosing)]

/-- The lines of a body are put together to the text. -/
theorem sectionsBehind_body {label : List UInt8} {body : List Line}
    (enclosed : ∀ line ∈ body, ¬ openingMark <+: line.content ∧
      ¬ closingMark label <+: line.content) :
    sectionsBehind (some ⟨label, text⟩) (body.map Line.bytes ++ rest) =
      sectionsBehind (some ⟨label, text ++ body.flatMap Line.bytes⟩) rest := by
  induction body generalizing text with
  | nil => rw [List.map_nil, List.nil_append, List.flatMap_nil, List.append_nil]
  | cons line others inductionHypothesis =>
    obtain ⟨⟨noOpening, noClosing⟩, behind⟩ := List.forall_mem_cons.mp enclosed
    rw [List.map_cons, List.cons_append, sectionsBehind_inside noOpening noClosing,
      inductionHypothesis behind, List.flatMap_cons, List.append_assoc]

/-- The line that closes a section gives what the section gives. -/
theorem sectionsBehind_closing (block : Block) :
    sectionsBehind (some ⟨block.label, block.text⟩) (block.closing.bytes :: rest) = do
      let found ← block.sections
      let others ← sectionsBehind none rest
      return found ++ others := by
  have noOpening := not_openingMark_prefix block.closes
  rw [sectionsBehind.eq_def]
  dsimp only
  rw [if_neg (mt (openingMark_isPrefixOf_iff block.closing).mp noOpening),
    if_pos ((closingMark_isPrefixOf_iff block.label block.closing).mpr block.closes),
    Block.sections]
  cases Kind.ofLabel? block.label with
  | none =>
    change _ = sectionsBehind none rest >>= fun others => .ok ([] ++ others)
    exact (bind_pure _).symm
  | some kind => cases Base64.decode block.text <;> rfl

/-- A block in front of other lines gives its own sections in front of theirs. -/
theorem sectionsBehind_block (block : Block) (enclosed : block.IsEnclosed) :
    sectionsBehind none (block.lines.map Line.bytes ++ rest) = do
      let found ← block.sections
      let others ← sectionsBehind none rest
      return found ++ others := by
  rw [Block.lines, Begun.lines, List.cons_append, List.map_cons, List.cons_append,
    sectionsBehind_opening, List.map_append, List.append_assoc, sectionsBehind_body enclosed]
  exact sectionsBehind_closing block

/-- A line outside sections that opens none gives nothing. -/
theorem sectionsBehind_note {line : Line} (noOpening : ¬ openingMark <+: line.content) :
    sectionsBehind none (line.bytes :: rest) = sectionsBehind none rest := by
  rw [sectionsBehind, if_neg (mt (openingMark_isPrefixOf_iff line).mp noOpening)]

/-- A file that ends in a section is not accepted. -/
theorem sectionsBehind_cut (begun : Begun) (enclosed : begun.IsEnclosed) :
    sectionsBehind none (begun.lines.map Line.bytes) = .error (.missingEnd begun.label) := by
  rw [Begun.lines, List.map_cons, sectionsBehind_opening,
    ← List.append_nil (begun.body.map Line.bytes), sectionsBehind_body enclosed, sectionsBehind]

end Blocks

/-- What stands between the beginning and the end of a file: an ordinary line, which does not
start with five dashes, or a block. -/
inductive Part where
  | note (line : Line) (ordinary : ¬ List.replicate 5 dash <+: line.content)
  | block (block : Block)

namespace Part

/-- The lines of a part. -/
def lines : Part → List Line
  | .note line _ => [line]
  | .block whole => whole.lines

/-- The block that a part is. -/
def block? : Part → Option Block
  | .note _ _ => none
  | .block whole => some whole

end Part

/-- A file made of parts, and perhaps of a section behind them that it ends in. Only its last
line can lack a line end. -/
structure Layout where
  parts : List Part
  cut : Option Begun
  ended : ∀ line ∈ (parts.flatMap Part.lines ++ cut.toList.flatMap Begun.lines).dropLast,
    line.ending.isSome

namespace Layout

/-- The lines of a file. -/
def lines (layout : Layout) : List Line :=
  layout.parts.flatMap Part.lines ++ layout.cut.toList.flatMap Begun.lines

/-- The bytes of a file. -/
def bytes (layout : Layout) : List UInt8 :=
  layout.lines.flatMap Line.bytes

/-- The blocks of a file. -/
def blocks (layout : Layout) : List Block :=
  layout.parts.filterMap Part.block?

end Layout

section Layouts

/-- A body of base64 is enclosed. Both marks have dashes, and base64 has none. -/
theorem Begun.isEnclosed_of_isBase64 {begun : Begun} (isBase64 : Base64.IsBase64 begun.text) :
    begun.IsEnclosed := by
  intro line member
  have noDash : dash ∉ line.content := by
    intro inLine
    have inText : dash ∈ begun.text :=
      List.mem_flatMap.mpr ⟨line, member, List.mem_append_left _ inLine⟩
    exact isBase64.ofByte_ne_invalid dash inText (by decide)
  have opening : dash ∈ openingMark := by decide
  have closing : dash ∈ closingMark begun.label := by simp [closingMark]
  exact ⟨fun opens => noDash (opens.subset opening),
    fun closes => noDash (closes.subset closing)⟩

/-- An ordinary line opens nothing. -/
theorem not_openingMark_of_ordinary {content : List UInt8}
    (ordinary : ¬ List.replicate 5 dash <+: content) : ¬ openingMark <+: content := by
  intro opens
  have dashes : List.replicate 5 dash <+: openingMark := by decide
  exact ordinary (dashes.trans opens)

/-- Parts in front of other lines give what their blocks give, in order, in front of what those
lines give. -/
theorem sectionsBehind_parts {parts : List Part} {rest : List (List UInt8)}
    (enclosed : ∀ block ∈ parts.filterMap Part.block?, block.IsEnclosed) :
    sectionsBehind none ((parts.flatMap Part.lines).map Line.bytes ++ rest) = do
      let found ← (parts.filterMap Part.block?).mapM Block.sections
      let others ← sectionsBehind none rest
      return found.flatten ++ others := by
  induction parts with
  | nil => exact (bind_pure _).symm
  | cons part more inductionHypothesis =>
    rw [List.flatMap_cons, List.map_append, List.append_assoc]
    cases part with
    | note line ordinary =>
      rw [List.filterMap_cons_none (f := Part.block?) rfl] at enclosed ⊢
      exact (sectionsBehind_note (not_openingMark_of_ordinary ordinary)).trans
        (inductionHypothesis enclosed)
    | block block =>
      rw [List.filterMap_cons_some (f := Part.block?) rfl] at enclosed ⊢
      obtain ⟨first, behind⟩ := List.forall_mem_cons.mp enclosed
      rw [Part.lines, sectionsBehind_block block first, inductionHypothesis behind,
        List.mapM_cons]
      simp only [bind_assoc, pure_bind, List.flatten_cons, List.append_assoc]

variable {layout : Layout}

/-- A file has the lines that it is made of. -/
theorem Layout.lines_bytes : Pem.lines layout.bytes = layout.lines.map Line.bytes :=
  lines_flatMap_bytes layout.ended

/-- A file that ends outside sections gives what its blocks give. -/
theorem sections_of_whole (enclosed : ∀ block ∈ layout.blocks, block.IsEnclosed)
    (whole : layout.cut = none) :
    sections layout.bytes = (layout.blocks.mapM Block.sections).map List.flatten := by
  rw [sections, Layout.lines_bytes, Layout.lines, List.map_append,
    sectionsBehind_parts enclosed, whole]
  change layout.blocks.mapM Block.sections >>= (fun found => .ok (found.flatten ++ [])) = _
  simp only [List.append_nil]
  cases layout.blocks.mapM Block.sections <;> rfl

/-- A file that ends in a section is refused, for that reason if all of its blocks could be
read. -/
theorem sections_of_cut (enclosed : ∀ block ∈ layout.blocks, block.IsEnclosed) {begun : Begun}
    (cut : layout.cut = some begun) (cutEnclosed : begun.IsEnclosed) :
    sections layout.bytes =
      layout.blocks.mapM Block.sections >>= fun _ => .error (.missingEnd begun.label) := by
  rw [sections, Layout.lines_bytes, Layout.lines, List.map_append,
    sectionsBehind_parts enclosed, cut, Option.toList_some, List.flatMap_singleton,
    sectionsBehind_cut begun cutEnclosed]
  rfl

end Layouts

end ExchangeWallet.Trust.Pem
