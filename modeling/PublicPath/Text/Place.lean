import PublicPath.Text.Basic

/-!
# Places in a source

A place is given by the bytes in front of it. A text stands at every place between two characters of
a source and at both of its ends, and at no other.
-/

namespace PublicPath.Text

theorem utf8ByteSize_ofList (cs : List Char) : (String.ofList cs).utf8ByteSize = byteLength cs := by
  induction cs with
  | nil => rfl
  | cons c cs ih =>
    have hsplit : String.ofList (c :: cs) = String.singleton c ++ String.ofList cs := by
      rw [String.singleton_eq_ofList, ← String.ofList_append, List.singleton_append]
    rw [hsplit, String.utf8ByteSize_append, String.utf8ByteSize_singleton, ih, byteLength_cons]

theorem byteLength_toList (s : String) : byteLength s.toList = s.utf8ByteSize := by
  rw [← utf8ByteSize_ofList, String.ofList_toList]

/-- A text is what a source holds from a byte on. -/
def StandsAt (cs : List Char) (offset : Nat) (back : List Char) : Prop :=
  ∃ front, cs = front ++ back ∧ byteLength front = offset

theorem standsAt_append (front back : List Char) :
    StandsAt (front ++ back) (byteLength front) back :=
  ⟨front, rfl, rfl⟩

namespace StandsAt

variable {cs front back taken left : List Char} {offset : Nat}

theorem skip (h : StandsAt cs offset (front ++ back)) :
    StandsAt cs (offset + byteLength front) back := by
  obtain ⟨lead, rfl, rfl⟩ := h
  rw [← List.append_assoc, ← byteLength_append]
  exact standsAt_append (lead ++ front) back

theorem tail {c : Char} (h : StandsAt cs offset (c :: back)) :
    StandsAt cs (offset + c.utf8Size) back := by
  have hcons : StandsAt cs offset ([c] ++ back) := h
  simpa using hcons.skip

theorem behind (h : StandsAt cs offset back) (happend : taken ++ left = back) :
    StandsAt cs (offset + byteLength taken) left := by
  subst happend
  exact h.skip

theorem skipBlanks (h : StandsAt cs offset back) :
    StandsAt cs (offset + byteLength (leadingBlanks back)) (skipBlanks back) :=
  h.behind (leadingBlanks_append_skipBlanks back)

theorem unique {back' : List Char} (h : StandsAt cs offset back) (h' : StandsAt cs offset back') :
    back = back' := by
  obtain ⟨front, rfl, hfront⟩ := h
  obtain ⟨front', hwhole, hfront'⟩ := h'
  exact (append_inj_of_byteLength hwhole (hfront.trans hfront'.symm)).2

theorem add_byteLength {source : String} (h : StandsAt source.toList offset back) :
    offset + byteLength back = source.utf8ByteSize := by
  obtain ⟨front, hsource, rfl⟩ := h
  rw [← byteLength_append, ← hsource, byteLength_toList]

theorem isValid {source : String} (h : StandsAt source.toList offset back) :
    String.Pos.Raw.IsValid source ⟨offset⟩ := by
  obtain ⟨front, hsource, rfl⟩ := h
  rw [String.Pos.Raw.isValid_iff_exists_append]
  refine ⟨String.ofList front, String.ofList back, ?_, ?_⟩
  · rw [← String.ofList_append, ← hsource, String.ofList_toList]
  · rw [← utf8ByteSize_ofList]
    rfl

end StandsAt

theorem exists_standsAt {source : String} {offset : Nat}
    (h : String.Pos.Raw.IsValid source ⟨offset⟩) : ∃ back, StandsAt source.toList offset back := by
  obtain ⟨front, back, rfl, hoffset⟩ := String.Pos.Raw.isValid_iff_exists_append.mp h
  refine ⟨back.toList, front.toList, String.toList_append, ?_⟩
  rw [byteLength_toList]
  exact congrArg String.Pos.Raw.byteIdx hoffset.symm

/-- A cut at a place gives the characters in front of it and behind it. -/
theorem eq_of_cut {source : String} {front back : List Char} {p : source.Pos}
    (h : source.toList = front ++ back) (hp : p.offset.byteIdx = byteLength front) :
    (source.sliceTo p).copy = String.ofList front ∧ (source.sliceFrom p).copy.toList = back := by
  obtain ⟨hsource, hoffset⟩ := p.splits
  have hsplit := congrArg String.toList hsource
  rw [String.toList_append, h] at hsplit
  have hlength : byteLength front = byteLength (source.sliceTo p).copy.toList := by
    rw [← hp, hoffset, byteLength_toList]
    rfl
  obtain ⟨hfront, hback⟩ := append_inj_of_byteLength hsplit hlength
  exact ⟨by rw [hfront, String.ofList_toList], hback.symm⟩

end PublicPath.Text
