import TargetHelp.Proofs.Text.Ascii

/-!
# Decoding in chunks

Some bytes begin with the sequence of a code point, are to be completed, or are refused, and what
stands behind them does not change the first and the last. So it makes no difference in what chunks
the bytes of a stream arrive: if all of them together are UTF-8 the chunks give their text, and if
they are not the chunks end in a fault. The positions that the faults name are all that can differ.
-/

set_option autoImplicit false
set_option relaxedAutoImplicit false

namespace TargetHelp

namespace Utf8

/-! ### The first sequence -/

/-- The bytes are the sequence of a code point, whatever stands behind them. -/
def IsSequence (bytes : Bytes) (c : CodePoint) : Prop :=
  ∀ start more, decodeFrom start (bytes ++ more) = (decodeFrom (start + bytes.length) more).cons c

/-- The bytes are to be completed. -/
def IsOpen (bytes : Bytes) : Prop := ∀ start, decodeFrom start bytes = .pending start bytes

/-- The bytes are refused, whatever stands behind them. -/
def IsRefused (bytes : Bytes) : Prop :=
  ∀ start more, ∃ error, decodeFrom start (bytes ++ more) = ⟨[], .malformed error⟩

/-- How decoding begins: with a sequence, with bytes to be completed, or with a fault. -/
inductive Beginning : Bytes → Prop
  | sequence {c : CodePoint} {bytes : Bytes} (hne : bytes ≠ []) (h : IsSequence bytes c)
      (rest : Bytes) : Beginning (bytes ++ rest)
  | pending {bytes : Bytes} (h : IsOpen bytes) : Beginning bytes
  | refused {bytes : Bytes} (h : IsRefused bytes) : Beginning bytes

section Lead

variable {b : UInt8} (rest : Bytes)

theorem beginning_of_two (h : ¬ b.toNat < 0xC2) (h' : b.toNat < 0xE0) :
    Beginning (b :: rest) := by
  have hascii : ¬ b.toNat < 0x80 := by omega
  cases rest with
  | nil =>
    refine .pending fun start => ?_
    rw [decodeFrom.eq_def]
    simp only [if_neg hascii, if_neg h, if_pos h']
  | cons c rest =>
    by_cases hc : isContinuation c = true
    · have hsequence : IsSequence [b, c] (.ofNat ((b.toNat - 0xC0) * 0x40 + low c)) := by
        intro start more
        rw [List.cons_append, List.singleton_append, decodeFrom.eq_def]
        simp only [if_neg hascii, if_neg h, if_pos h', if_pos hc]
        rfl
      exact .sequence (List.cons_ne_nil _ _) hsequence rest
    · refine .refused fun start more => ⟨⟨b, start, 1, .invalidContinuation⟩, ?_⟩
      rw [List.cons_append, List.cons_append, decodeFrom.eq_def]
      simp only [if_neg hascii, if_neg h, if_pos h', if_neg hc]
      rfl

/-- The first two bytes of a surrogate are refused only with what follows them. -/
theorem isCutSurrogate_append {c : UInt8} {rest : Bytes}
    (h : isCutSurrogate (b :: c :: rest) = false) (more : Bytes) :
    isCutSurrogate (b :: c :: (rest ++ more)) = false := by
  cases rest with
  | nil =>
    cases more with
    | nil => exact h
    | cons d more => rfl
  | cons d rest => rfl

theorem beginning_of_three (h : ¬ b.toNat < 0xE0) (h' : b.toNat < 0xF0) :
    Beginning (b :: rest) := by
  have hascii : ¬ b.toNat < 0x80 := by omega
  have hlow : ¬ b.toNat < 0xC2 := by omega
  cases rest with
  | nil =>
    refine .pending fun start => ?_
    rw [decodeFrom.eq_def]
    simp only [if_neg hascii, if_neg hlow, if_neg h, if_pos h']
  | cons c rest =>
    by_cases hc : mayFollow b c = true
    · cases rest with
      | nil =>
        refine .pending fun start => ?_
        rw [decodeFrom.eq_def]
        simp only [if_neg hascii, if_neg hlow, if_neg h, if_pos h', if_pos hc]
      | cons d rest =>
        by_cases hd : isContinuation d = true
        · have hsequence : IsSequence [b, c, d]
              (.ofNat ((b.toNat - 0xE0) * 0x1000 + low c * 0x40 + low d)) := by
            intro start more
            rw [List.cons_append, List.cons_append, List.singleton_append, decodeFrom.eq_def]
            simp only [if_neg hascii, if_neg hlow, if_neg h, if_pos h', if_pos hc, if_pos hd]
            rfl
          exact .sequence (List.cons_ne_nil _ _) hsequence rest
        · refine .refused fun start more => ⟨⟨b, start, 2, .invalidContinuation⟩, ?_⟩
          rw [List.cons_append, List.cons_append, List.cons_append, decodeFrom.eq_def]
          simp only [if_neg hascii, if_neg hlow, if_neg h, if_pos h', if_pos hc, if_neg hd]
          rfl
    · cases hcut : isCutSurrogate (b :: c :: rest) with
      | true =>
        obtain rfl : rest = [] := by
          cases rest with
          | nil => rfl
          | cons d rest => cases hcut
        refine .pending fun start => ?_
        rw [decodeFrom.eq_def]
        simp only [if_neg hascii, if_neg hlow, if_neg h, if_pos h', if_neg hc, if_pos hcut]
      | false =>
        refine .refused fun start more => ⟨⟨b, start, 1, .invalidContinuation⟩, ?_⟩
        have hnone := Bool.eq_false_iff.mp (isCutSurrogate_append hcut more)
        rw [List.cons_append, List.cons_append, decodeFrom.eq_def]
        simp only [if_neg hascii, if_neg hlow, if_neg h, if_pos h', if_neg hc, if_neg hnone]
        rfl

theorem beginning_of_four (h : ¬ b.toNat < 0xF0) (h' : b.toNat < 0xF5) :
    Beginning (b :: rest) := by
  have hascii : ¬ b.toNat < 0x80 := by omega
  have hlow : ¬ b.toNat < 0xC2 := by omega
  have htwo : ¬ b.toNat < 0xE0 := by omega
  cases rest with
  | nil =>
    refine .pending fun start => ?_
    rw [decodeFrom.eq_def]
    simp only [if_neg hascii, if_neg hlow, if_neg htwo, if_neg h, if_pos h']
  | cons c rest =>
    by_cases hc : mayFollow b c = true
    · cases rest with
      | nil =>
        refine .pending fun start => ?_
        rw [decodeFrom.eq_def]
        simp only [if_neg hascii, if_neg hlow, if_neg htwo, if_neg h, if_pos h', if_pos hc]
      | cons d rest =>
        by_cases hd : isContinuation d = true
        · cases rest with
          | nil =>
            refine .pending fun start => ?_
            rw [decodeFrom.eq_def]
            simp only [if_neg hascii, if_neg hlow, if_neg htwo, if_neg h, if_pos h', if_pos hc,
              if_pos hd]
          | cons e rest =>
            by_cases he : isContinuation e = true
            · have hsequence : IsSequence [b, c, d, e] (.ofNat
                  ((b.toNat - 0xF0) * 0x40000 + low c * 0x1000 + low d * 0x40 + low e)) := by
                intro start more
                rw [List.cons_append, List.cons_append, List.cons_append, List.singleton_append,
                  decodeFrom.eq_def]
                simp only [if_neg hascii, if_neg hlow, if_neg htwo, if_neg h, if_pos h', if_pos hc,
                  if_pos hd, if_pos he]
                rfl
              exact .sequence (List.cons_ne_nil _ _) hsequence rest
            · refine .refused fun start more => ⟨⟨b, start, 3, .invalidContinuation⟩, ?_⟩
              rw [List.cons_append, List.cons_append, List.cons_append, List.cons_append,
                decodeFrom.eq_def]
              simp only [if_neg hascii, if_neg hlow, if_neg htwo, if_neg h, if_pos h', if_pos hc,
                if_pos hd, if_neg he]
              rfl
        · refine .refused fun start more => ⟨⟨b, start, 2, .invalidContinuation⟩, ?_⟩
          rw [List.cons_append, List.cons_append, List.cons_append, decodeFrom.eq_def]
          simp only [if_neg hascii, if_neg hlow, if_neg htwo, if_neg h, if_pos h', if_pos hc,
            if_neg hd]
          rfl
    · refine .refused fun start more => ⟨⟨b, start, 1, .invalidContinuation⟩, ?_⟩
      rw [List.cons_append, List.cons_append, decodeFrom.eq_def]
      simp only [if_neg hascii, if_neg hlow, if_neg htwo, if_neg h, if_pos h', if_neg hc]
      rfl

end Lead

theorem beginning {bytes : Bytes} (hne : bytes ≠ []) :
    Beginning bytes := by
  cases bytes with
  | nil => exact absurd rfl hne
  | cons b rest =>
    by_cases hascii : b.toNat < 0x80
    · have hsequence : IsSequence [b] (.ofNat b.toNat) := by
        intro start more
        rw [List.singleton_append, decodeFrom.eq_def]
        exact if_pos hascii
      exact .sequence (List.cons_ne_nil _ _) hsequence rest
    by_cases hlow : b.toNat < 0xC2
    · refine .refused fun start more => ⟨⟨b, start, 1, .invalidStart⟩, ?_⟩
      rw [List.cons_append, decodeFrom.eq_def]
      simp only [if_neg hascii, if_pos hlow]
      rfl
    by_cases htwo : b.toNat < 0xE0
    · exact beginning_of_two rest hlow htwo
    by_cases hthree : b.toNat < 0xF0
    · exact beginning_of_three rest htwo hthree
    by_cases hfour : b.toNat < 0xF5
    · exact beginning_of_four rest hthree hfour
    · refine .refused fun start more => ⟨⟨b, start, 1, .invalidStart⟩, ?_⟩
      rw [List.cons_append, decodeFrom.eq_def]
      simp only [if_neg hascii, if_neg hlow, if_neg htwo, if_neg hthree, if_neg hfour]
      rfl

/-- Bytes are taken apart sequence by sequence, up to their end, to bytes that are to be completed
or to a fault. -/
theorem sequenceInduction {motive : Bytes → Prop} (nil : motive [])
    (sequence : ∀ c bytes rest, IsSequence bytes c → motive rest → motive (bytes ++ rest))
    (pending : ∀ bytes, IsOpen bytes → motive bytes)
    (refused : ∀ bytes, IsRefused bytes → motive bytes) (bytes : Bytes) : motive bytes := by
  induction hlength : bytes.length using Nat.strong_induction_on generalizing bytes with
  | _ n ih =>
    subst hlength
    by_cases hnil : bytes = []
    · rw [hnil]
      exact nil
    cases beginning hnil with
    | @sequence c first hne h rest =>
      have hpos := List.length_pos_iff.mpr hne
      refine sequence c first rest h (ih rest.length ?_ rest rfl)
      rw [List.length_append]
      omega
    | pending h => exact pending bytes h
    | refused h => exact refused bytes h

/-! ### Bytes in two parts -/

/-- What is left to be completed, unless the bytes are malformed. -/
def Ending.open? : Ending → Option Bytes
  | .complete => some []
  | .pending _ bytes => some bytes
  | .malformed _ => none

/-- What a decoding comes to but for positions: the text, and what is left to be completed unless
the bytes are malformed. -/
def Decoded.content (decoded : Decoded) : Text × Option Bytes :=
  (decoded.text, decoded.ending.open?)

def scan (bytes : Bytes) : Text × Option Bytes := (decodeFrom 0 bytes).content

theorem IsSequence.content {c : CodePoint} {bytes : Bytes} (h : IsSequence bytes c) (start : Nat)
    (more : Bytes) : (decodeFrom start (bytes ++ more)).content =
      (c :: (decodeFrom (start + bytes.length) more).content.1,
        (decodeFrom (start + bytes.length) more).content.2) := by
  rw [h]
  rfl

/-- Where the bytes stand makes no difference. -/
theorem content_decodeFrom (start : Nat) (bytes : Bytes) :
    (decodeFrom start bytes).content = scan bytes := by
  have hall : ∀ start start', (decodeFrom start bytes).content =
      (decodeFrom start' bytes).content := by
    induction bytes using sequenceInduction with
    | nil => exact fun _ _ => rfl
    | sequence c bytes rest h ih =>
      intro start start'
      rw [h.content, h.content, ih (start + bytes.length) (start' + bytes.length)]
    | pending bytes h =>
      intro start start'
      rw [h, h]
      rfl
    | refused bytes h =>
      intro start start'
      obtain ⟨error, herror⟩ := h start []
      obtain ⟨error', herror'⟩ := h start' []
      rw [List.append_nil] at herror herror'
      rw [herror, herror']
      rfl
  exact hall start 0

theorem IsSequence.scan {c : CodePoint} {bytes : Bytes} (h : IsSequence bytes c) (more : Bytes) :
    scan (bytes ++ more) = (c :: (scan more).1, (scan more).2) := by
  unfold Utf8.scan
  rw [h.content, content_decodeFrom]
  rfl

theorem IsOpen.scan {bytes : Bytes} (h : IsOpen bytes) : scan bytes = ([], some bytes) := by
  unfold Utf8.scan
  rw [h]
  rfl

theorem IsRefused.scan {bytes : Bytes} (h : IsRefused bytes) (more : Bytes) :
    scan (bytes ++ more) = ([], none) := by
  obtain ⟨error, herror⟩ := h 0 more
  unfold Utf8.scan
  rw [herror]
  rfl

/-- Bytes that are malformed stay so, whatever stands behind them. -/
theorem scan_append_of_none {bytes : Bytes} (h : (scan bytes).2 = none) (more : Bytes) :
    scan (bytes ++ more) = scan bytes := by
  induction bytes using sequenceInduction with
  | nil => cases h
  | sequence c bytes rest hsequence ih =>
    rw [hsequence.scan] at h ⊢
    rw [List.append_assoc, hsequence.scan, ih h]
  | pending bytes hopen =>
    rw [hopen.scan] at h
    cases h
  | refused bytes hrefused =>
    have hall := hrefused.scan []
    rw [List.append_nil] at hall
    rw [hrefused.scan, hall]

/-- What some bytes have left to be completed goes in front of the bytes behind them. -/
theorem scan_append_of_some {bytes left : Bytes} (h : (scan bytes).2 = some left) (more : Bytes) :
    scan (bytes ++ more) =
      ((scan bytes).1 ++ (scan (left ++ more)).1, (scan (left ++ more)).2) := by
  induction bytes using sequenceInduction with
  | nil =>
    cases h
    rfl
  | sequence c bytes rest hsequence ih =>
    rw [hsequence.scan] at h ⊢
    rw [List.append_assoc, hsequence.scan, ih h]
    rfl
  | pending bytes hopen =>
    rw [hopen.scan] at h ⊢
    obtain rfl : bytes = left := Option.some.inj h
    rfl
  | refused bytes hrefused =>
    have hall := hrefused.scan []
    rw [List.append_nil] at hall
    rw [hall] at h
    cases h

/-- What is left to be completed comes to nothing by itself. -/
theorem scan_left {bytes left : Bytes} (h : (scan bytes).2 = some left) :
    scan left = ([], some left) := by
  induction bytes using sequenceInduction with
  | nil =>
    cases h
    rfl
  | sequence c bytes rest hsequence ih =>
    rw [hsequence.scan] at h
    exact ih h
  | pending bytes hopen =>
    rw [hopen.scan] at h
    obtain rfl : bytes = left := Option.some.inj h
    exact hopen.scan
  | refused bytes hrefused =>
    have hall := hrefused.scan []
    rw [List.append_nil] at hall
    rw [hall] at h
    cases h

/-! ### Whole streams -/

theorem close_eq_none_iff (ending : Ending) : ending.close = none ↔ ending.open? = some [] := by
  cases ending with
  | complete => exact ⟨fun _ => rfl, fun _ => rfl⟩
  | pending start bytes =>
    cases bytes with
    | nil => exact ⟨fun _ => rfl, fun _ => rfl⟩
    | cons b rest =>
      refine ⟨fun h => ?_, fun h => nomatch h⟩
      unfold Ending.close at h
      dsimp only at h
      split at h <;> cases h
  | malformed error => exact ⟨fun h => (nomatch h), fun h => (nomatch h)⟩

theorem decode_eq_ok_iff (bytes : Bytes) (t : Text) :
    decode bytes = .ok t ↔ scan bytes = (t, some []) := by
  have hclose := close_eq_none_iff (decodeFrom 0 bytes).ending
  unfold decode scan Decoded.content
  dsimp only
  constructor
  · intro h
    split at h
    · cases h
    · rename_i hnone
      rw [hclose.mp hnone, Except.ok.inj h]
  · intro h
    obtain ⟨htext, hopen⟩ := Prod.mk.inj h
    rw [hclose.mpr hopen, htext]

end Utf8

namespace Source

open Utf8

/-- Chunks that are all UTF-8 together with what is pending give the text of the whole. -/
theorem decodeChunks_eq (pending : Bytes) (hpending : scan pending = ([], some pending))
    (chunks : List Bytes) :
    ((decodeChunks pending chunks).2 = none ↔ (scan (pending ++ chunks.flatten)).2 = some []) ∧
    ((decodeChunks pending chunks).2 = none →
      (decodeChunks pending chunks).1 = (scan (pending ++ chunks.flatten)).1) := by
  induction chunks generalizing pending with
  | nil =>
    rw [List.flatten_nil, List.append_nil, hpending]
    exact ⟨close_eq_none_iff (.pending 0 pending), fun _ => rfl⟩
  | cons chunk chunks ih =>
    rw [List.flatten_cons, ← List.append_assoc]
    have hscan : scan (pending ++ chunk) = (decodeFrom 0 (pending ++ chunk)).content := rfl
    have hstep (left : Bytes) (hleft : (scan (pending ++ chunk)).2 = some left)
        (hchunks : decodeChunks pending (chunk :: chunks) =
          ((scan (pending ++ chunk)).1 ++ (decodeChunks left chunks).1,
            (decodeChunks left chunks).2)) :
        ((decodeChunks pending (chunk :: chunks)).2 = none ↔
          (scan (pending ++ chunk ++ chunks.flatten)).2 = some []) ∧
        ((decodeChunks pending (chunk :: chunks)).2 = none →
          (decodeChunks pending (chunk :: chunks)).1 =
            (scan (pending ++ chunk ++ chunks.flatten)).1) := by
      obtain ⟨hnone, htext⟩ := ih left (scan_left hleft)
      rw [hchunks, scan_append_of_some hleft]
      exact ⟨hnone, fun h => congrArg _ (htext h)⟩
    cases hending : (decodeFrom 0 (pending ++ chunk)).ending with
    | complete =>
      refine hstep [] ?_ ?_
      · rw [hscan, Decoded.content, hending]
        rfl
      · rw [decodeChunks, hending]
        rfl
    | pending start left =>
      refine hstep left ?_ ?_
      · rw [hscan, Decoded.content, hending]
        rfl
      · rw [decodeChunks, hending]
        rfl
    | malformed error =>
      have hnone : (scan (pending ++ chunk)).2 = none := by
        rw [hscan, Decoded.content, hending]
        rfl
      rw [scan_append_of_none hnone, hnone, decodeChunks, hending]
      exact ⟨⟨fun h => (nomatch h), fun h => (nomatch h)⟩, fun h => nomatch h⟩

/-- Bytes that are UTF-8 are a source of the lines of their text. -/
theorem ofBytes_of_decode {bytes : Bytes} {t : Text} (h : decode bytes = .ok t) (display : Text) :
    ofBytes display bytes = { display, lines := Text.lines (Text.universalLineEnds t) } := by
  have hall := (decode_eq_ok_iff bytes t).mp h
  obtain ⟨hnone, htext⟩ := decodeChunks_eq [] rfl (chunksOf chunkSize bytes)
  rw [List.nil_append, flatten_chunksOf (by decide), hall] at hnone htext
  have hchunks : decodeChunks [] (chunksOf chunkSize bytes) = (t, none) :=
    Prod.ext (htext (hnone.mpr rfl)) (hnone.mpr rfl)
  unfold ofBytes
  rw [hchunks]

/-- Bytes that are not UTF-8 are a source that ends in a fault. -/
theorem fault_ofBytes {bytes : Bytes} (h : ∀ t, decode bytes ≠ .ok t) (display : Text) :
    ∃ error, (ofBytes display bytes).fault = some (.decoding error) := by
  obtain ⟨hnone, -⟩ := decodeChunks_eq [] rfl (chunksOf chunkSize bytes)
  rw [List.nil_append, flatten_chunksOf (by decide)] at hnone
  have hsome : (decodeChunks [] (chunksOf chunkSize bytes)).2 ≠ none := by
    intro heq
    exact h _ ((decode_eq_ok_iff bytes (scan bytes).1).mpr (Prod.ext rfl (hnone.mp heq)))
  unfold ofBytes
  rcases hchunks : decodeChunks [] (chunksOf chunkSize bytes) with ⟨t, error?⟩
  rw [hchunks] at hsome
  cases error? with
  | none => exact absurd rfl hsome
  | some error => exact ⟨error, rfl⟩

/-- Nothing ends a source of bytes early but a malformed sequence. -/
theorem exists_decoding_of_fault {display : Text} {bytes : Bytes} {f : Fault}
    (h : (ofBytes display bytes).fault = some f) : ∃ error, f = .decoding error := by
  unfold ofBytes at h
  split at h
  · cases h
  · exact ⟨_, (Option.some.inj h).symm⟩

end Source

end TargetHelp
