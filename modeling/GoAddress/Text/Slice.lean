/-!
# Cutting texts at byte offsets

Places in source files are byte offsets into the UTF-8 form of their text. A cut inside a
character, behind the end, or with its ends reversed gives nothing. Main statements: a cut that
gives something gives a part of the text that starts and ends at the offsets, and a cut between
characters with its ends in order does give something.
-/

namespace GoAddress.Text

/-- The text between two byte offsets. -/
def slice? (s : String) (start stop : Nat) : Option String :=
  match s.pos? ⟨start⟩, s.pos? ⟨stop⟩ with
  | some first, some last => if first ≤ last then some (s.extract first last) else none
  | _, _ => none

/-- Whether a byte offset stands between the characters of a text, at its start or at its end. -/
def isBoundary (s : String) (n : Nat) : Bool :=
  (s.pos? ⟨n⟩).isSome

/-- The place that an offset is taken for is at the offset. -/
theorem byteIdx_of_pos?_eq_some {s : String} {n : Nat} {p : s.Pos} (h : s.pos? ⟨n⟩ = some p) :
    p.offset.byteIdx = n := by
  simp only [String.pos?, String.Slice.pos?, Option.map_eq_some_iff] at h
  obtain ⟨q, hq, rfl⟩ := h
  split at hq
  · cases hq
    rfl
  · cases hq

/-- What is cut out of the parts of a text is the part in the middle. -/
theorem extract_eq_of_append {s before part after : String} {first last : s.Pos}
    (hs : s = before ++ part ++ after) (hf : first.offset.byteIdx = before.utf8ByteSize)
    (hl : last.offset.byteIdx = (before ++ part).utf8ByteSize) : s.extract first last = part := by
  apply String.toByteArray_inj.1
  have bytes : s.toByteArray = before.toByteArray ++ part.toByteArray ++ after.toByteArray := by
    rw [hs, String.toByteArray_append, String.toByteArray_append]
  have size : (before ++ part).utf8ByteSize = (before.toByteArray ++ part.toByteArray).size := by
    rw [String.utf8ByteSize_append, ByteArray.size_append]
    rfl
  rw [String.toByteArray_extract, hf, hl, bytes, size, ByteArray.extract_append_size_left]
  exact ByteArray.extract_append_eq_right rfl ByteArray.size_append

/-- A cut that gives something gives the part of the text that starts and ends at the offsets. -/
theorem slice?_eq_some {s t : String} {start stop : Nat} (h : slice? s start stop = some t) :
    ∃ before after, s = before ++ t ++ after ∧ before.utf8ByteSize = start ∧
      (before ++ t).utf8ByteSize = stop := by
  unfold slice? at h
  split at h
  next first last hf hl =>
    split at h
    next hle =>
      obtain ⟨part, hb, ha⟩ := (first.splits.le_iff_exists_eq_append last.splits).1 hle
      have hs := first.splits.eq_append
      have hfirst := congrArg String.Pos.Raw.byteIdx first.splits.offset_eq_rawEndPos
      have hlast := congrArg String.Pos.Raw.byteIdx last.splits.offset_eq_rawEndPos
      rw [ha, ← String.append_assoc] at hs
      rw [hb] at hlast
      cases h
      rw [extract_eq_of_append hs hfirst hlast]
      exact ⟨_, _, hs, hfirst.symm.trans (byteIdx_of_pos?_eq_some hf),
        hlast.symm.trans (byteIdx_of_pos?_eq_some hl)⟩
    next => cases h
  next => cases h

/-- An offset stands between characters if the text can be parted there. -/
theorem isBoundary_iff {s : String} {n : Nat} :
    isBoundary s n = true ↔ ∃ before after, s = before ++ after ∧ before.utf8ByteSize = n := by
  have hvalid : isBoundary s n = true ↔ String.Pos.Raw.IsValid s ⟨n⟩ := by
    unfold isBoundary String.pos? String.Slice.pos?
    rw [Option.isSome_map]
    split
    · next h => simpa using h
    · next h => simpa using h
  rw [hvalid, String.Pos.Raw.isValid_iff_exists_append]
  refine exists_congr fun before => exists_congr fun after => and_congr_right fun _ => ?_
  rw [String.Pos.Raw.ext_iff]
  exact eq_comm

/-- A cut between characters gives something if its ends are in order. -/
theorem exists_slice? {s : String} {start stop : Nat} (hstart : isBoundary s start = true)
    (hstop : isBoundary s stop = true) (hle : start ≤ stop) :
    ∃ t, slice? s start stop = some t := by
  obtain ⟨first, hfirst⟩ := Option.isSome_iff_exists.mp hstart
  obtain ⟨last, hlast⟩ := Option.isSome_iff_exists.mp hstop
  have hordered : first ≤ last := by
    rw [String.Pos.le_iff, String.Pos.Raw.le_iff, byteIdx_of_pos?_eq_some hfirst,
      byteIdx_of_pos?_eq_some hlast]
    exact hle
  refine ⟨s.extract first last, ?_⟩
  rw [slice?, hfirst, hlast]
  exact if_pos hordered

end GoAddress.Text
