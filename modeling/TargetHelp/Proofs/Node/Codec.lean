import TargetHelp.Proofs.Json.Object
import TargetHelp.Proofs.Render.Collect
import TargetHelp.Proofs.Text.Line

/-!
# Dumped nodes come back

A dump has one line for each node, printable ASCII alone in front of its line feed. No value can
break a line up, therefore, and reading is decoding line by line. The texts of the nodes may hold
any code points; a high surrogate in front of a low one is all that would not come back.
-/

set_option autoImplicit false
set_option relaxedAutoImplicit false

namespace TargetHelp.Node

/-- The texts that a node holds. -/
def texts : Node → List Text
  | .comment c => [c.target, c.value]
  | .target name => [name]
  | .include path _ => [path]

/-- The record of a node as it stands in its line. -/
def body (n : Node) : Text := n.toJson.encode

/-! ### One line -/

theorem read_body {n : Node} (h : ∀ t ∈ n.texts, t.Unpaired) :
    Json.read (n.body ++ [Text.lineFeed]) = .ok n.toJson := by
  have hkind : Text.Unpaired "kind" := by decide
  cases n with
  | comment c =>
    have htexts : c.target.Unpaired ∧ c.value.Unpaired :=
      ⟨h _ List.mem_cons_self, h _ (List.mem_cons_of_mem _ List.mem_cons_self)⟩
    have hkeys : List.Nodup [("kind" : Text), "target", "value"] := by decide
    refine Json.read_obj ?_ hkeys
    simp only [Json.FieldsReadBack, List.forall_mem_cons]
    exact ⟨⟨hkind, Json.readsBack_str (by decide)⟩,
      ⟨by decide, Json.readsBack_str htexts.1⟩, ⟨by decide, Json.readsBack_str htexts.2⟩,
      List.forall_mem_nil _⟩
  | target name =>
    have hkeys : List.Nodup [("kind" : Text), "name"] := by decide
    refine Json.read_obj ?_ hkeys
    simp only [Json.FieldsReadBack, List.forall_mem_cons]
    exact ⟨⟨hkind, Json.readsBack_str (by decide)⟩,
      ⟨by decide, Json.readsBack_str (h _ List.mem_cons_self)⟩, List.forall_mem_nil _⟩
  | «include» path isOptional =>
    have hkeys : List.Nodup [("kind" : Text), "path", "optional"] := by decide
    refine Json.read_obj ?_ hkeys
    simp only [Json.FieldsReadBack, List.forall_mem_cons]
    exact ⟨⟨hkind, Json.readsBack_str (by decide)⟩,
      ⟨by decide, Json.readsBack_str (h _ List.mem_cons_self)⟩,
      ⟨by decide, Json.readsBack_bool isOptional⟩,
      List.forall_mem_nil _⟩

theorem printableAscii_body (n : Node) : n.body.PrintableAscii := by
  have hstr (t : Text) : (Json.encode (.str t)).PrintableAscii := by
    rw [Json.encode]
    exact Json.printableAscii_encodeText t
  have hbool (b : Bool) : (Json.encode (.bool b)).PrintableAscii := by
    cases b <;> decide
  cases n with
  | comment c =>
    refine Json.printableAscii_obj ?_
    simp only [List.forall_mem_cons]
    exact ⟨hstr _, hstr _, hstr _, List.forall_mem_nil _⟩
  | target name =>
    refine Json.printableAscii_obj ?_
    simp only [List.forall_mem_cons]
    exact ⟨hstr _, hstr _, List.forall_mem_nil _⟩
  | «include» path isOptional =>
    refine Json.printableAscii_obj ?_
    simp only [List.forall_mem_cons]
    exact ⟨hstr _, hstr _, hbool _, List.forall_mem_nil _⟩

theorem isBlank_body (n : Node) (t : Text) : Text.isBlank (n.body ++ t) = false := by
  have hbrace : Text.isBlankPoint (CodePoint.ofChar '\x7b') = false := by decide
  cases n <;>
    simp only [body, toJson, Json.encode, Text.isBlank, List.all_append, Bool.and_eq_false_iff] <;>
    exact Or.inl (Or.inl (Or.inl rfl))

theorem ofLine_body {n : Node} (h : ∀ t ∈ n.texts, t.Unpaired) (number : Nat) :
    ofLine number (n.body ++ [Text.lineFeed]) = .ok n := by
  simp only [ofLine, read_body h, ofJson_toJson]

/-! ### All lines -/

theorem dump_eq (nodes : List Node) :
    dump nodes = ((nodes.map body).map (· ++ [Text.lineFeed])).flatten := by
  simp only [dump, dumpRecords, List.map_map, Function.comp_def, body]

theorem lines_dump (nodes : List Node) :
    Text.lines (dump nodes) = (nodes.map body).map (· ++ [Text.lineFeed]) := by
  have hbodies : ∀ b ∈ nodes.map body, Text.lineFeed ∉ b := by
    intro b hb
    obtain ⟨n, -, rfl⟩ := List.mem_map.mp hb
    exact (printableAscii_body n).lineFeed_notMem
  rw [dump_eq, Text.lines_flatten hbodies]

/-- Universal line ends change nothing in a dump. -/
theorem universalLineEnds_dump (nodes : List Node) :
    Text.universalLineEnds (dump nodes) = dump nodes := by
  refine Text.universalLineEnds_eq_self fun hm => ?_
  rw [dump_eq] at hm
  obtain ⟨line, hline, hc⟩ := List.mem_flatten.mp hm
  obtain ⟨b, hb, rfl⟩ := List.mem_map.mp hline
  obtain ⟨n, -, rfl⟩ := List.mem_map.mp hb
  rcases List.mem_append.mp hc with hc | hc
  · exact (printableAscii_body n).carriageReturn_notMem hc
  · exact absurd (List.mem_singleton.mp hc) (by decide)

theorem ofLines_bodies {nodes : List Node} (h : ∀ n ∈ nodes, ∀ t ∈ n.texts, t.Unpaired)
    (number : Nat) :
    ofLines number ((nodes.map body).map (· ++ [Text.lineFeed])) = (nodes, none) := by
  induction nodes generalizing number with
  | nil => rfl
  | cons n nodes ih =>
    have hn := h n List.mem_cons_self
    have hrest := ih (fun m hm => h m (List.mem_cons_of_mem n hm)) (number + 1)
    simp only [List.map_cons, ofLines, isBlank_body, ofLine_body hn, hrest]
    rfl

theorem nodes_readStream (source : Source) (includePath : Json) :
    (readStream source includePath).nodes = (ofLines 1 source.lines).1 := by
  unfold readStream
  dsimp only
  split
  · rfl
  · rfl

/-- What ends a reading is a bad line, or else what ends its source. -/
theorem fault_readStream (source : Source) (includePath : Json) :
    (readStream source includePath).fault = (ofLines 1 source.lines).2.or source.fault := by
  unfold readStream
  rcases ofLines 1 source.lines with ⟨nodes, fault?⟩
  dsimp only
  split
  · rename_i fault heq
    exact heq.symm
  · rename_i heq
    exact heq.symm

/-- All that a reading reports is how many nodes it has come to. -/
theorem eq_readingReport {source : Source} {includePath : Json} {r : Report}
    (h : r ∈ (readStream source includePath).reports) :
    ∃ count, r = readingReport count includePath := by
  unfold readStream at h
  dsimp only at h
  cases hfault : (ofLines 1 source.lines).2.or source.fault with
  | some f =>
    rw [hfault] at h
    exact absurd h List.not_mem_nil
  | none =>
    rw [hfault] at h
    exact ⟨_, List.mem_singleton.mp h⟩

theorem readStream_of_lines {nodes : List Node} {source : Source}
    (h : ∀ n ∈ nodes, ∀ t ∈ n.texts, t.Unpaired) (hlines : source.lines = Text.lines (dump nodes))
    (hfault : source.fault = none) (includePath : Json) :
    readStream source includePath =
      { nodes, reports := [readingReport nodes.length includePath] } := by
  simp only [readStream, hlines, lines_dump, ofLines_bodies h, hfault]
  rfl

/-- Dumped nodes stand each in a line of its own, printable ASCII up to its line feed, and reading
the dump gives exactly them back. The line feeds may be taken alone for line ends or with the other
universal ones. -/
theorem read_dump {nodes : List Node} (h : ∀ n ∈ nodes, ∀ t ∈ n.texts, t.Unpaired)
    (display : Text) (includePath : Json) :
    (∀ b ∈ nodes.map body, b.PrintableAscii) ∧
    Text.lines (dump nodes) = (nodes.map body).map (· ++ [Text.lineFeed]) ∧
    ∀ t, t = dump nodes ∨ t = Text.universalLineEnds (dump nodes) →
      let reading := readStream (Source.ofText display t) includePath
      reading.result = .ok nodes ∧
      ∀ d registry (s : Session), s.Ready d registry →
        (Session.outcome (Session.finish reading) s).1 = .ok nodes := by
  have hprintable : ∀ b ∈ nodes.map body, b.PrintableAscii := by
    intro b hb
    obtain ⟨n, -, rfl⟩ := List.mem_map.mp hb
    exact printableAscii_body n
  refine ⟨hprintable, lines_dump nodes, fun t ht => ?_⟩
  have hdump : t = dump nodes := by
    rcases ht with ht | ht
    · exact ht
    · rw [ht, universalLineEnds_dump]
  have hlines : (Source.ofText display t).lines = Text.lines (dump nodes) := by rw [hdump]; rfl
  have hreading := readStream_of_lines h hlines rfl includePath
  intro reading
  have hresult : reading.result = .ok nodes := by
    change (readStream (Source.ofText display t) includePath).result = _
    rw [hreading]
    rfl
  exact ⟨hresult, fun d registry s hs => (hs.outcome_finish reading).trans hresult⟩

/-- Quotes, line ends of all sorts, an astral code point and surrogates that pair with nothing:
between two texts, in the wrong order, and in front of an astral code point. -/
theorem read_dump_awkward :
    let high : CodePoint := 0xD83D
    let low : CodePoint := 0xDE00
    let nodes := [comment ⟨[high], [low, high]⟩,
      target (("\"\\\r\n\t" : Text) ++ [0x2028, 0x85, 0]),
      «include» [high, 0x1F600, low] true]
    (readStream (Source.ofText "dump" (Text.universalLineEnds (dump nodes))) .null).result =
      .ok nodes := by
  intro high low nodes
  have h : ∀ n ∈ nodes, ∀ t ∈ n.texts, t.Unpaired := by decide
  exact ((read_dump h "dump" .null).2.2 _ (Or.inr rfl)).1

end TargetHelp.Node
