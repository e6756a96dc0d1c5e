import TargetHelp.Proofs.Json.Surrogates
import TargetHelp.Proofs.Node.Codec

/-!
# Dumping is a normal form

Node records may be written in many ways: fields in any order, some of them twice or of no use,
spaces and escapes at will, blank lines in between. A dump writes each in one way only. Escapes may
stand for any code points, but what is read from a text without surrogates of its own has no high
surrogate right in front of a low one (`Json.unpaired_of_read`), and such nodes come back from
their dump. So dumping what was read, and reading that, changes nothing any more.
-/

set_option autoImplicit false
set_option relaxedAutoImplicit false

namespace TargetHelp

/-! ### Plain lines -/

namespace Text

theorem Plain.of_mem_lines {t : Text} (h : t.Plain) {line : Text} (hline : line ∈ lines t) :
    line.Plain := by
  intro c hc
  apply h c
  rw [← flatten_lines t]
  exact List.mem_flatten_of_mem hline hc

theorem Plain.universalLineEndsFrom {t : Text} (h : t.Plain) (afterReturn : Bool) :
    (universalLineEndsFrom afterReturn t).Plain := by
  have hfeed : ¬ lineFeed.IsSurrogate := by decide
  induction t generalizing afterReturn with
  | nil => exact List.forall_mem_nil _
  | cons c t ih =>
    obtain ⟨hc, ht⟩ := List.forall_mem_cons.mp h
    unfold Text.universalLineEndsFrom
    split_ifs
    · exact .cons hfeed (ih ht true)
    · exact ih ht false
    · exact .cons hc (ih ht false)

end Text

/-! ### Fields of records -/

theorem Fields.mem_of_get? {α : Type} {key : Text} {fields : Fields α} {value : α}
    (h : fields.get? key = some value) : (key, value) ∈ fields := by
  induction fields with
  | nil => cases h
  | cons field rest ih =>
    obtain ⟨k, v⟩ := field
    by_cases hk : k = key
    · rw [Fields.get?, if_pos hk] at h
      obtain rfl : v = value := Option.some.inj h
      rw [hk]
      exact List.mem_cons_self
    · rw [Fields.get?, if_neg hk] at h
      exact List.mem_cons_of_mem _ (ih h)

namespace Node

open Session (bind_eq_ok_iff)

theorem unpaired_textField {fields : Fields Json} (hfields : Json.Unpaired (.obj fields))
    {kind key : Text} {default? : Option Text} (hdefault : ∀ t ∈ default?, t.Unpaired) {t : Text}
    (h : textField fields kind key default? = .ok t) : t.Unpaired := by
  unfold textField at h
  split at h
  · rename_i found hfound
    obtain rfl : found = t := Except.ok.inj h
    cases hfields with
    | obj hkeys hvalues =>
      have hvalue : Json.Unpaired (.str found) := hvalues _ (Fields.mem_of_get? hfound)
      cases hvalue with
      | str hstr => exact hstr
  · cases h
  · split at h
    · rename_i found
      obtain rfl : found = t := Except.ok.inj h
      exact hdefault found rfl
    · cases h

theorem unpaired_texts_of_ofFields {fields : Fields Json} (hfields : Json.Unpaired (.obj fields))
    {n : Node} (h : ofFields fields = .ok n) : ∀ t ∈ n.texts, t.Unpaired := by
  have hnone : ∀ t ∈ (none : Option Text), t.Unpaired := fun t ht => nomatch ht
  have hempty : ∀ t ∈ (some [] : Option Text), t.Unpaired := by
    intro t ht
    obtain rfl : [] = t := Option.some.inj ht
    exact .nil
  have hpath {isOptional : Bool}
      (h : (textField fields includeKind "path" none >>= fun path =>
        pure («include» path isOptional)) = .ok n) : ∀ t ∈ n.texts, t.Unpaired := by
    obtain ⟨path, hpath, hn⟩ := bind_eq_ok_iff.mp h
    obtain rfl := Except.ok.inj hn
    simp only [texts, List.forall_mem_singleton]
    exact unpaired_textField hfields hnone hpath
  unfold ofFields at h
  dsimp only at h
  split at h
  · rename_i kind name hkind
    split_ifs at h with hcomment htarget hinclude
    · obtain ⟨target, htarget, h⟩ := bind_eq_ok_iff.mp h
      obtain ⟨value, hvalue, hn⟩ := bind_eq_ok_iff.mp h
      obtain rfl := Except.ok.inj hn
      simp only [texts, List.forall_mem_cons]
      exact ⟨unpaired_textField hfields hempty htarget, unpaired_textField hfields hnone hvalue,
        List.forall_mem_nil _⟩
    · obtain ⟨found, hfound, hn⟩ := bind_eq_ok_iff.mp h
      obtain rfl := Except.ok.inj hn
      simp only [texts, List.forall_mem_singleton]
      exact unpaired_textField hfields hnone hfound
    · rw [hinclude] at h
      split at h
      · exact hpath h
      · exact hpath h
      · cases h
  · cases h

theorem unpaired_texts_of_ofLine {number : Nat} {line : Text} (hline : line.Plain) {n : Node}
    (h : ofLine number line = .ok n) : ∀ t ∈ n.texts, t.Unpaired := by
  unfold ofLine at h
  split at h
  · cases h
  · cases h
  · cases h
  · rename_i record hread
    have hrecord := Json.unpaired_of_read hline hread
    split at h
    · cases h
    · rename_i found hfound
      obtain rfl : found = n := Except.ok.inj h
      cases record with
      | obj fields => exact unpaired_texts_of_ofFields hrecord hfound
      | _ => cases hfound

/-- Whatever ends a reading, the nodes before hold no pair of surrogates. -/
theorem unpaired_texts_of_ofLines {lines : List Text} (hlines : ∀ line ∈ lines, line.Plain)
    (number : Nat) : ∀ n ∈ (ofLines number lines).1, ∀ t ∈ n.texts, t.Unpaired := by
  induction lines generalizing number with
  | nil => exact List.forall_mem_nil _
  | cons line lines ih =>
    obtain ⟨hline, hrest⟩ := List.forall_mem_cons.mp hlines
    unfold ofLines
    by_cases hblank : Text.isBlank line = true
    · rw [if_pos hblank]
      exact ih hrest (number + 1)
    · rw [if_neg hblank]
      cases hnode : ofLine number line with
      | error fault => exact List.forall_mem_nil _
      | ok node =>
        exact List.forall_mem_cons.mpr
          ⟨unpaired_texts_of_ofLine hline hnode, ih hrest (number + 1)⟩

/-! ### Reading again -/

/-- Nodes that were read hold no pair of surrogates, if the lines had no surrogates at all. -/
theorem unpaired_texts_of_result {source : Source} (hlines : ∀ line ∈ source.lines, line.Plain)
    {includePath : Json} {nodes : List Node}
    (h : (readStream source includePath).result = .ok nodes) :
    ∀ n ∈ nodes, ∀ t ∈ n.texts, t.Unpaired := by
  obtain ⟨-, hnodes⟩ := Reading.result_eq_ok h
  rw [hnodes, nodes_readStream]
  exact unpaired_texts_of_ofLines hlines 1

theorem result_readStream_dump {nodes : List Node} (h : ∀ n ∈ nodes, ∀ t ∈ n.texts, t.Unpaired)
    (display : Text) (includePath : Json) :
    (readStream (Source.ofText display (dump nodes)) includePath).result = .ok nodes := by
  have hlines : (Source.ofText display (dump nodes)).lines = Text.lines (dump nodes) := rfl
  rw [readStream_of_lines h hlines rfl includePath]
  rfl

/-- The nodes of a text without surrogates, whatever its escapes stand for, come back from their
dump, and what comes back has the same dump. Line feeds may be taken alone for line ends, in the
text as in the dump, or with the other universal ones. -/
theorem dump_is_normal_form {t : Text} (ht : t.Plain) {source : Source}
    (hlines : source.lines = Text.lines t ∨
      source.lines = Text.lines (Text.universalLineEnds t))
    {includePath : Json} {nodes : List Node}
    (h : (readStream source includePath).result = .ok nodes) (display : Text)
    (includePath' : Json) :
    ∀ u, u = dump nodes ∨ u = Text.universalLineEnds (dump nodes) →
      let again := readStream (Source.ofText display u) includePath'
      again.result = .ok nodes ∧ again.result.map dump = .ok (dump nodes) ∧
      ∀ d registry (s : Session), s.Ready d registry →
        (Session.outcome (Session.finish again) s).1 = .ok nodes := by
  have hplain : ∀ line ∈ source.lines, line.Plain := by
    intro line hline
    rcases hlines with hlines | hlines
    · rw [hlines] at hline
      exact ht.of_mem_lines hline
    · rw [hlines] at hline
      exact (ht.universalLineEndsFrom false).of_mem_lines hline
  have hunpaired := unpaired_texts_of_result hplain h
  intro u hu again
  have hdump : u = dump nodes := by
    rcases hu with hu | hu
    · exact hu
    · rw [hu, universalLineEnds_dump]
  have hagain : again.result = .ok nodes := by
    show (readStream (Source.ofText display u) includePath').result = .ok nodes
    rw [hdump]
    exact result_readStream_dump hunpaired display includePath'
  refine ⟨hagain, ?_, fun d registry s hs => (hs.outcome_finish again).trans hagain⟩
  rw [hagain]
  rfl

/-- A key twice, keys of no use, an absent target, blank lines, and escapes: of a high surrogate in
front of a pair, of a letter and a slash, and of two surrogates in the wrong order. -/
theorem dump_is_normal_form_spelled :
    let t : Text := "\x7b\x22name\x22:\x22\\ud83d\\uD83D\\uDE00\x22," ++
      "\x22kind\x22:\x22target\x22\x7d\n\n" ++
      "\t\x7b\x22value\x22:0, \x22kind\x22:\x22comment\x22," ++
      "\x22value\x22:\x22\\u0041\\/\x22\x7d \n\x85\n" ++
      "\x7b\x22kind\x22:\x22target\x22,\x22x\x22:[-1.5]," ++
      "\x22name\x22:\x22\\ude00\\ud83d\x22\x7d"
    let nodes := [target [0xD83D, 0x1F600], comment ⟨[], "A/"⟩, target [0xDE00, 0xD83D]]
    (readStream (Source.ofText "stdin" t) .null).result = .ok nodes ∧ dump nodes ≠ t ∧
      (readStream (Source.ofText "dump" (dump nodes)) .null).result.map dump =
        .ok (dump nodes) := by
  intro t nodes
  have ht : t.Plain := by decide +kernel
  have hread : (readStream (Source.ofText "stdin" t) .null).result = .ok nodes := by
    have hsome : (readStream (Source.ofText "stdin" t) .null).result.toOption = some nodes := by
      decide +kernel
    revert hsome
    cases (readStream (Source.ofText "stdin" t) .null).result with
    | ok found => exact fun hsome => congrArg Except.ok (Option.some.inj hsome)
    | error f => exact fun hsome => nomatch hsome
  have hdump : dump nodes ≠ t := by decide +kernel
  obtain ⟨-, hagain, -⟩ :=
    dump_is_normal_form ht (Or.inl rfl) hread "dump" .null (dump nodes) (Or.inl rfl)
  exact ⟨hread, hdump, hagain⟩

/-- Different nodes have different dumps: a dump tells all that was read. -/
theorem dump_injective {nodes nodes' : List Node} (h : ∀ n ∈ nodes, ∀ t ∈ n.texts, t.Unpaired)
    (h' : ∀ n ∈ nodes', ∀ t ∈ n.texts, t.Unpaired) (hdump : dump nodes = dump nodes') :
    nodes = nodes' := by
  have hread := result_readStream_dump h [] .null
  have hread' := result_readStream_dump h' [] .null
  rw [hdump] at hread
  exact Except.ok.inj (hread.symm.trans hread')

end Node

end TargetHelp
