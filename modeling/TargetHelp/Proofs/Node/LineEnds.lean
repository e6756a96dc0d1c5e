import TargetHelp.Proofs.Json.LineEnds
import TargetHelp.Proofs.Node.Composition

/-!
# Line ends of node streams

Where carriage returns stand in front of line feeds only, it makes no difference to a reading
whether these were translated first or each line keeps its own: the lines are the same up to their
ends, blank ones stay blank, and any other is read alike with both ends, wherever in it the reader
is when it comes to the end.
-/

set_option autoImplicit false
set_option relaxedAutoImplicit false

namespace TargetHelp.Node

theorem ofLine_congr {line other : Text} (h : Json.read line = Json.read other) (number : Nat) :
    ofLine number line = ofLine number other := by
  unfold ofLine
  rw [h]

/-- A change that is seen neither by the test for blank lines nor by the reader changes nothing. -/
theorem ofLines_map {change : Text → Text} {lines : List Text}
    (h : ∀ line ∈ lines, Text.isBlank (change line) = Text.isBlank line ∧
      Json.read (change line) = Json.read line) (number : Nat) :
    ofLines number (lines.map change) = ofLines number lines := by
  induction lines generalizing number with
  | nil => rfl
  | cons line lines ih =>
    obtain ⟨⟨hblank, hread⟩, hrest⟩ := List.forall_mem_cons.mp h
    rw [List.map_cons, ofLines, ofLines, hblank, ofLine_congr hread, ih hrest]

/-- Without the carriage return at its end a line is as blank as with it and is read alike. -/
theorem withoutReturns_of_mem_lines {t line : Text} (h : t.PairsReturns)
    (hline : line ∈ Text.lines t) :
    Text.isBlank line.withoutReturns = Text.isBlank line ∧
      Json.read line.withoutReturns = Json.read line := by
  rcases Text.returns_of_mem_lines h hline with hnone | ⟨body, hbody, rfl⟩
  · rw [Text.withoutReturns_eq_self hnone]
    exact ⟨rfl, rfl⟩
  · have hends : Text.withoutReturns (body ++ [Text.carriageReturn, Text.lineFeed]) =
        body ++ [Text.lineFeed] := by
      unfold Text.withoutReturns
      rw [List.filter_append, ← Text.withoutReturns, Text.withoutReturns_eq_self hbody]
      rfl
    rw [hends, Text.isBlank_append, Text.isBlank_append]
    exact ⟨rfl, (Json.read_lineEnd body).symm⟩

theorem readStream_congr {source other : Source}
    (hlines : ofLines 1 source.lines = ofLines 1 other.lines) (hfault : source.fault = other.fault)
    (includePath : Json) : readStream source includePath = readStream other includePath := by
  unfold readStream
  rw [hlines, hfault]

/-- A text in which a line feed follows each carriage return gives the same reading, that is the
same nodes in the same order, the same fault with its message and the number of its line, and the
same reports, whether its lines end at line feeds alone and keep the carriage returns, or whether
its line ends are universal ones. -/
theorem readStream_universalLineEnds (display : Text) (includePath : Json) {t : Text}
    (h : ∀ u v, t = u ++ Text.carriageReturn :: v → ∃ w, v = Text.lineFeed :: w) :
    readStream (Source.ofText display (Text.universalLineEnds t)) includePath =
      readStream (Source.ofText display t) includePath := by
  have hpairs : t.PairsReturns := Text.pairsReturns_iff.mpr h
  have hlines : Text.lines (Text.universalLineEnds t) = (Text.lines t).map Text.withoutReturns := by
    rw [Text.universalLineEnds_eq_withoutReturns hpairs, Text.lines_withoutReturns hpairs]
  have hread : ofLines 1 (Text.lines (Text.universalLineEnds t)) = ofLines 1 (Text.lines t) := by
    rw [hlines]
    exact ofLines_map (fun line hline => withoutReturns_of_mem_lines hpairs hline) 1
  have hfault : (Source.ofText display (Text.universalLineEnds t)).fault =
      (Source.ofText display t).fault := rfl
  exact readStream_congr hread hfault includePath

/-- A blank line, a record, and a string that is cut off in the middle of an escape. -/
theorem readStream_universalLineEnds_escape :
    let rule : Text := "\x7b\x22kind\x22: \x22target\x22, \x22name\x22: \x22a\x22\x7d\r\n"
    let cut : Text := "\x7b\x22kind\x22: \x22\\u00\r\n"
    let t : Text := ("\t\r\n" : Text) ++ rule ++ cut
    let reading (x : Text) := readStream (Source.ofText "stdin" x) .null
    Text.universalLineEnds t ≠ t ∧ reading (Text.universalLineEnds t) = reading t ∧
    (reading t).nodes = [.target "a"] ∧
    (reading t).fault = some (.parse "invalid JSON: Invalid \\uXXXX escape" (some 3)) := by
  intro rule cut t reading
  have hpairs : t.PairsReturns := by decide
  have hreading := readStream_universalLineEnds "stdin" .null (Text.pairsReturns_iff.mp hpairs)
  exact ⟨by decide, hreading, by decide +kernel, rfl⟩

end TargetHelp.Node
