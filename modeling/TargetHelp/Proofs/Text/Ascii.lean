import TargetHelp.Proofs.Text.Plain
import TargetHelp.Source

/-!
# ASCII in chunks

An ASCII text has one byte for each code point, so no chunk can break a sequence off: however the
bytes arrive, each is decoded to the code point that it encodes.
-/

set_option autoImplicit false
set_option relaxedAutoImplicit false

namespace TargetHelp

/-- All code points are ASCII characters. -/
def Text.Ascii (t : Text) : Prop := ∀ c ∈ t, c.val < 0x80

theorem Text.Ascii.plain {t : Text} (h : t.Ascii) : t.Plain :=
  fun c hc hsurrogate => absurd (Nat.lt_of_le_of_lt hsurrogate.1 (h c hc)) (by decide)

namespace Utf8

/-- All bytes are those of ASCII characters. -/
def Ascii (bytes : Bytes) : Prop := ∀ b ∈ bytes, b.toNat < 0x80

/-- The code points with the numbers of some bytes. -/
def asciiText (bytes : Bytes) : Text := bytes.map fun b => CodePoint.ofNat b.toNat

theorem encodePoint_of_ascii {c : CodePoint} (h : c.val < 0x80) :
    encodePoint c = [UInt8.ofNat c.val] := if_pos h

theorem toNat_ofNat_of_ascii {n : Nat} (h : n < 0x80) : (UInt8.ofNat n).toNat = n :=
  Nat.mod_eq_of_lt (Nat.lt_trans h (by decide))

/-- An ASCII text is encoded, by ASCII bytes that have its code points. -/
theorem encode_of_ascii {t : Text} (h : t.Ascii) :
    ∃ bytes, encode t = .ok bytes ∧ Ascii bytes ∧ asciiText bytes = t := by
  refine ⟨t.flatMap encodePoint, ?_, ?_, ?_⟩
  · unfold encode
    rw [h.plain.surrogates?]
  · intro b hb
    obtain ⟨c, hc, hbc⟩ := List.mem_flatMap.mp hb
    rw [encodePoint_of_ascii (h c hc), List.mem_singleton] at hbc
    rw [hbc, toNat_ofNat_of_ascii (h c hc)]
    exact h c hc
  · induction t with
    | nil => rfl
    | cons c t ih =>
      obtain ⟨hc, ht⟩ := List.forall_mem_cons.mp h
      have hhead : CodePoint.ofNat (UInt8.ofNat c.val).toNat = c := by
        rw [toNat_ofNat_of_ascii hc]
        exact Fin.ext (CodePoint.val_ofNat c.isLt)
      rw [List.flatMap_cons, encodePoint_of_ascii hc]
      exact List.cons_eq_cons.mpr ⟨hhead, ih ht⟩

theorem decodeFrom_of_ascii {bytes : Bytes} (h : Ascii bytes) (start : Nat) :
    decodeFrom start bytes = ⟨asciiText bytes, .complete⟩ := by
  induction bytes generalizing start with
  | nil => rfl
  | cons b bytes ih =>
    obtain ⟨hb, hbytes⟩ := List.forall_mem_cons.mp h
    unfold decodeFrom
    rw [if_pos hb, ih hbytes]
    rfl

end Utf8

namespace Source

open Utf8

theorem flatten_chunksOf {size : Nat} (hsize : size ≠ 0) (bytes : Bytes) :
    (chunksOf size bytes).flatten = bytes := by
  fun_induction chunksOf size bytes with
  | case1 bytes h => exact (h.resolve_left hsize).symm
  | case2 bytes h ih =>
    rw [List.flatten_cons, ih]
    exact List.take_append_drop size bytes

theorem decodeChunks_of_ascii {chunks : List Bytes} (h : Ascii chunks.flatten) :
    decodeChunks [] chunks = (asciiText chunks.flatten, none) := by
  induction chunks with
  | nil => rfl
  | cons chunk chunks ih =>
    obtain ⟨hchunk, hrest⟩ := List.forall_mem_append.mp h
    unfold decodeChunks
    rw [List.nil_append, decodeFrom_of_ascii hchunk]
    dsimp only
    rw [ih hrest, List.flatten_cons, asciiText, asciiText, asciiText, List.map_append]

/-- The bytes of an ASCII text are a source of its lines. -/
theorem ofBytes_of_ascii {t : Text} (h : t.Ascii) {bytes : Bytes} (hbytes : encode t = .ok bytes)
    (display : Text) :
    ofBytes display bytes = { display, lines := Text.lines (Text.universalLineEnds t) } := by
  obtain ⟨others, hothers, hascii, rfl⟩ := encode_of_ascii h
  obtain rfl : others = bytes := Except.ok.inj (hothers.symm.trans hbytes)
  have hchunks : (chunksOf chunkSize others).flatten = others := flatten_chunksOf (by decide) others
  have hdecode : decodeChunks [] (chunksOf chunkSize others) = (asciiText others, none) := by
    rw [decodeChunks_of_ascii (by rw [hchunks]; exact hascii), hchunks]
  unfold ofBytes
  rw [hdecode]

end Source

end TargetHelp
