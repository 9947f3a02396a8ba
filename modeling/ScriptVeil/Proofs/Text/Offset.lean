import ScriptVeil.Text.Basic

namespace ScriptVeil.Text

variable {s t : Text} {m n k : Nat}

@[simp]
theorem takeBytes_zero (t : Text) : takeBytes 0 t = [] := by
  cases t <;> rfl

@[simp]
theorem dropBytes_zero (t : Text) : dropBytes 0 t = t := by
  cases t <;> rfl

theorem takeBytes_byteSize_append (s t : Text) : takeBytes s.byteSize (s ++ t) = s := by
  induction s with
  | nil => exact takeBytes_zero t
  | cons c s ih =>
    have hc : c.utf8Size + byteSize s ≠ 0 := by have := c.utf8Size_pos; omega
    rw [byteSize_cons, List.cons_append, takeBytes, if_neg hc, Nat.add_sub_cancel_left, ih]

theorem takeBytes_append (h : s.byteSize = n) (t : Text) : takeBytes n (s ++ t) = s :=
  h ▸ takeBytes_byteSize_append s t

theorem dropBytes_byteSize_append (s t : Text) : dropBytes s.byteSize (s ++ t) = t := by
  have h := takeBytes_append_dropBytes s.byteSize (s ++ t)
  rw [takeBytes_byteSize_append] at h
  exact List.append_cancel_left h

theorem dropBytes_append (h : s.byteSize = n) (t : Text) : dropBytes n (s ++ t) = t :=
  h ▸ dropBytes_byteSize_append s t

@[simp]
theorem isBoundary_zero (t : Text) : IsBoundary t 0 := by
  rw [IsBoundary, takeBytes_zero, byteSize_nil]

theorem isBoundary_append (s t : Text) : IsBoundary (s ++ t) s.byteSize := by
  rw [IsBoundary, takeBytes_byteSize_append]

@[simp]
theorem byteSize_reverse (t : Text) : byteSize t.reverse = byteSize t := by
  induction t with
  | nil => rfl
  | cons c t ih =>
    rw [List.reverse_cons, byteSize_append, ih, byteSize_cons, byteSize_cons, byteSize_nil]
    omega

theorem IsBoundary.exists_append (h : IsBoundary t n) : ∃ s u, t = s ++ u ∧ s.byteSize = n :=
  ⟨takeBytes n t, dropBytes n t, (takeBytes_append_dropBytes n t).symm, h⟩

theorem exists_append_of_byteSize_le {s s' u u' : Text} (h : s ++ u = s' ++ u')
    (hle : s.byteSize ≤ s'.byteSize) : ∃ v, s' = s ++ v ∧ u = v ++ u' := by
  rcases List.append_eq_append_iff.1 h with ⟨v, hs, hu⟩ | ⟨v, hs, hu⟩
  · exact ⟨v, hs, hu⟩
  · cases v with
    | nil => exact ⟨[], by rw [hs, List.append_nil, List.append_nil], hu.symm⟩
    | cons c v =>
      have hc := c.utf8Size_pos
      rw [hs, byteSize_append, byteSize_cons] at hle
      omega

theorem IsBoundary.exists_append_append (hm : IsBoundary t m) (hn : IsBoundary t n) (h : m ≤ n) :
    ∃ s u v, t = s ++ (u ++ v) ∧ s.byteSize = m ∧ u.byteSize = n - m := by
  obtain ⟨s, u, rfl, rfl⟩ := hm.exists_append
  obtain ⟨s', u', he, rfl⟩ := hn.exists_append
  obtain ⟨v, rfl, rfl⟩ := exists_append_of_byteSize_le he h
  exact ⟨s, v, u', rfl, rfl, by rw [byteSize_append, Nat.add_sub_cancel_left]⟩

theorem slice_append (s u v : Text) :
    slice (s ++ (u ++ v)) ⟨s.byteSize, s.byteSize + u.byteSize⟩ = u := by
  rw [slice, dropBytes_byteSize_append, Nat.add_sub_cancel_left, takeBytes_byteSize_append]

theorem exists_append_slice {r : Span} (hm : IsBoundary t r.start) (hn : IsBoundary t r.stop)
    (h : r.start ≤ r.stop) :
    ∃ s v, t = s ++ (slice t r ++ v) ∧ r = ⟨s.byteSize, s.byteSize + (slice t r).byteSize⟩ := by
  obtain ⟨start, stop⟩ := r
  obtain ⟨s, u, v, rfl, rfl, hu⟩ := hm.exists_append_append hn h
  have hstop : stop = s.byteSize + u.byteSize := by
    have hle : s.byteSize ≤ stop := h
    have hu : u.byteSize = stop - s.byteSize := hu
    omega
  rw [hstop, slice_append]
  exact ⟨s, v, rfl, rfl⟩

theorem takeBytes_append_slice (hm : IsBoundary t m) (hn : IsBoundary t n) (h : m ≤ n) :
    takeBytes m t ++ slice t ⟨m, n⟩ = takeBytes n t := by
  obtain ⟨s, u, v, rfl, rfl, hu⟩ := hm.exists_append_append hn h
  have hn' : n = s.byteSize + u.byteSize := by omega
  subst hn'
  rw [takeBytes_byteSize_append, slice_append, ← List.append_assoc, ← byteSize_append,
    takeBytes_byteSize_append]

theorem slice_append_dropBytes (hm : IsBoundary t m) (hn : IsBoundary t n) (h : m ≤ n) :
    slice t ⟨m, n⟩ ++ dropBytes n t = dropBytes m t := by
  have ht := takeBytes_append_dropBytes n t
  rw [← takeBytes_append_slice hm hn h, List.append_assoc] at ht
  exact List.append_cancel_left (ht.trans (takeBytes_append_dropBytes m t).symm)

theorem slice_append_slice (hm : IsBoundary t m) (hn : IsBoundary t n) (hk : IsBoundary t k)
    (hmn : m ≤ n) (hnk : n ≤ k) : slice t ⟨m, n⟩ ++ slice t ⟨n, k⟩ = slice t ⟨m, k⟩ := by
  have h : takeBytes m t ++ (slice t ⟨m, n⟩ ++ slice t ⟨n, k⟩) = takeBytes m t
    ++ slice t ⟨m, k⟩ := by
    rw [← List.append_assoc, takeBytes_append_slice hm hn hmn, takeBytes_append_slice hn hk hnk,
      takeBytes_append_slice hm hk (Nat.le_trans hmn hnk)]
  exact List.append_cancel_left h

theorem takeBytes_takeBytes_append (hm : IsBoundary t m) (hn : IsBoundary t n) (h : m ≤ n)
    (s : Text) :
    takeBytes m (takeBytes n t ++ s) = takeBytes m t := by
  rw [← takeBytes_append_slice hm hn h, List.append_assoc, takeBytes_append hm]

theorem dropBytes_takeBytes_append (hn : IsBoundary t n) (s : Text) :
    dropBytes n (takeBytes n t ++ s) = s :=
  dropBytes_append hn s

end ScriptVeil.Text
