import InvoiceGateway.Proofs.Url.Loopback

/-! # Where paths end -/

namespace InvoiceGateway.Url

/-! ## The end of a path -/

/-- Whether a character ends the path of an address. -/
def endsPath (c : Char) : Bool :=
  c = '?' || c = '#'

theorem not_endsPath_of_all {cs : List Char} (h : cs.all (fun c => !endsPath c) = true) :
    ∀ c ∈ cs, endsPath c = false := by
  intro c hc
  simpa using List.all_eq_true.mp h c hc

theorem cut_fst (stop : Char → Bool) (cs : List Char) :
    (cut stop cs).1 = cs.takeWhile fun c => !stop c := by
  unfold cut
  split
  · next hnil =>
      refine (List.takeWhile_eq_self_iff.mpr fun c hc => ?_).symm
      exact List.dropWhile_eq_nil_iff.mp hnil c hc
  · rfl

theorem splitPath_fst (cs : List Char) :
    (splitPath cs).1 = cs.takeWhile fun c => !endsPath c := by
  have hfst : (splitPath cs).1 = (cut (· = '?') (cut (· = '#') cs).1).1 := rfl
  rw [hfst, cut_fst, cut_fst, List.takeWhile_takeWhile]
  refine congrArg (List.takeWhile · cs) (funext fun c => ?_)
  simp [endsPath]

theorem splitPath_fst_of_not_endsPath {cs : List Char} (h : ∀ c ∈ cs, endsPath c = false) :
    (splitPath cs).1 = cs := by
  rw [splitPath_fst]
  refine List.takeWhile_eq_self_iff.mpr fun c hc => ?_
  rw [h c hc]
  rfl

/-- What stands behind a character that ends the path has no part in it. -/
theorem splitPath_fst_append {cs : List Char} (h : ∃ c ∈ cs, endsPath c = true)
    (rest : List Char) : (splitPath (cs ++ rest)).1 = (splitPath cs).1 := by
  obtain ⟨c, hc, hends⟩ := h
  have hne : (cs.takeWhile fun c => !endsPath c).length ≠ cs.length := by
    intro hlength
    have hpart := List.takeWhile_prefix (l := cs) fun c => !endsPath c
    have hself := hpart.eq_of_length hlength
    have hnot := List.takeWhile_eq_self_iff.mp hself c hc
    rw [hends] at hnot
    contradiction
  rw [splitPath_fst, splitPath_fst, List.takeWhile_append, if_neg hne]

/-! ## Segments -/

theorem rawSegments_ne_nil (special : Bool) (cs : List Char) : rawSegments special cs ≠ [] := by
  cases cs with
  | nil => exact List.cons_ne_nil _ _
  | cons c cs =>
      rw [rawSegments]
      split
      · exact List.cons_ne_nil _ _
      · split <;> exact List.cons_ne_nil _ _

theorem rawSegments_append (special : Bool) (front cs : List Char) :
    rawSegments special (front ++ '/' :: cs) =
      rawSegments special front ++ rawSegments special cs := by
  induction front with
  | nil =>
      have hslash : isSlash special '/' = true := rfl
      change rawSegments special ('/' :: cs) = [] :: rawSegments special cs
      rw [rawSegments]
      split
      · next hnil => exact absurd hnil (rawSegments_ne_nil special cs)
      · next part parts hraw =>
          rw [if_pos hslash, hraw]
  | cons c front ih =>
      rw [List.cons_append, rawSegments, ih, rawSegments]
      cases hraw : rawSegments special front with
      | nil => exact absurd hraw (rawSegments_ne_nil special front)
      | cons part parts =>
          simp only [List.cons_append]
          split <;> rfl

/-- Segments that stand before others only change what those are taken after. -/
theorem exists_take_append (taken raws rest : List (List Char)) :
    ∃ before, Taken.take false ⟨taken, false⟩ (raws ++ rest) =
      Taken.take false ⟨before, false⟩ rest := by
  induction raws generalizing taken with
  | nil => exact ⟨taken, rfl⟩
  | cons raw raws ih =>
      -- A segment with dots asks whether it ends the path, but only for what it leaves behind.
      rw [List.cons_append, Taken.take]
      simp only [Bool.false_and, Bool.false_eq_true, if_false]
      split
      · exact ih _
      · split
        · exact ih _
        · exact ih _

theorem pathText_append (front later : List (List Char)) :
    pathText (front ++ later) = pathText front ++ pathText later :=
  List.flatMap_append

theorem suffix_pathText_segments (front : List Char) {cs : List Char} (h : ∀ c ∈ cs, IsInert c) :
    '/' :: encode pathSet cs <:+ pathText (segments true (front ++ '/' :: cs)) := by
  have hraw : ∀ segment ∈ rawSegments true cs, ∀ c ∈ segment, IsInert c :=
    fun segment hsegment c hc => h c (mem_of_mem_rawSegments hsegment hc)
  obtain ⟨before, hbefore⟩ :=
    exists_take_append [] (rawSegments true front) (rawSegments true cs)
  rw [segments, rawSegments_append, hbefore, take_of_isInert before hraw, List.reverse_append,
    List.reverse_reverse, pathText_append, pathText_rawSegments h]
  exact List.suffix_append _ _

/-- Inert characters at the end of a path stay there. -/
theorem suffix_hierarchicalPath (front : List Char) {cs : List Char} (h : ∀ c ∈ cs, IsInert c) :
    '/' :: encode pathSet cs <:+ hierarchicalPath true (front ++ '/' :: cs) := by
  cases front with
  | nil =>
      exact ⟨[], (hierarchicalPath_of_isInert h).symm⟩
  | cons c front =>
      rw [List.cons_append, hierarchicalPath]
      split
      · exact suffix_pathText_segments front h
      · exact suffix_pathText_segments (c :: front) h

/-! ## No question marks in paths -/

theorem questionMark_notMem_percentByte (b : UInt8) : '?' ∉ percentByte b := by
  have hdigit : ∀ n < 16, (if n < 10 then Char.ofNat (48 + n) else Char.ofNat (55 + n)) ≠ '?' := by
    decide
  have hhigh := hdigit (b.toNat / 16) (by have := b.toNat_lt; omega)
  have hlow := hdigit (b.toNat % 16) (Nat.mod_lt _ (by decide))
  simp [percentByte, Ne.symm hhigh, Ne.symm hlow]

theorem questionMark_notMem_encode (cs : List Char) : '?' ∉ encode pathSet cs := by
  intro hmem
  obtain ⟨c, -, hc⟩ := List.mem_flatMap.mp hmem
  unfold encodeChar at hc
  split at hc
  · obtain ⟨b, -, hb⟩ := List.mem_flatMap.mp hc
    exact questionMark_notMem_percentByte b hb
  · next hset =>
      rw [← List.mem_singleton.mp hc] at hset
      exact hset (by decide)

theorem mem_of_mem_takeBack {taken : List (List Char)} {segment : List Char}
    (h : segment ∈ takeBack taken) : segment ∈ taken := by
  cases taken with
  | nil => exact h
  | cons first rest =>
      rw [takeBack] at h
      split at h
      · exact h
      · exact List.mem_cons_of_mem first h

/-- Every segment is one taken before, an empty one, or the encoded text of one. -/
theorem questionMark_notMem_take {taken : List (List Char)} (htaken : ∀ s ∈ taken, '?' ∉ s)
    (raws : List (List Char)) :
    ∀ s ∈ (Taken.take false ⟨taken, false⟩ raws).segments, '?' ∉ s := by
  induction raws generalizing taken with
  | nil => exact htaken
  | cons raw rest ih =>
      have hending : ∀ later : List (List Char), (∀ s ∈ later, '?' ∉ s) →
          ∀ s ∈ (if rest.isEmpty then [[]] else []) ++ later, '?' ∉ s := by
        intro later hlater s hs
        rcases List.mem_append.mp hs with hs | hs
        · split at hs
          · rw [List.mem_singleton.mp hs]
            exact List.not_mem_nil
          · contradiction
        · exact hlater s hs
      rw [Taken.take]
      simp only [Bool.false_and, Bool.false_eq_true, if_false]
      split
      · exact ih (hending _ fun s hs => htaken s (mem_of_mem_takeBack hs))
      · split
        · exact ih (hending _ htaken)
        · refine ih fun s hs => ?_
          rcases List.mem_cons.mp hs with rfl | hs
          · exact questionMark_notMem_encode (plain raw)
          · exact htaken s hs

theorem questionMark_notMem_hierarchicalPath (special : Bool) (cs : List Char) :
    '?' ∉ hierarchicalPath special cs := by
  have hpath : ∀ raw, '?' ∉ pathText (segments special raw) := by
    intro raw hmem
    obtain ⟨segment, hsegment, hc⟩ := List.mem_flatMap.mp hmem
    rcases List.mem_cons.mp hc with hc | hc
    · exact absurd hc (by decide)
    · exact questionMark_notMem_take (fun _ h => absurd h List.not_mem_nil) _ segment
        (List.mem_reverse.mp hsegment) hc
  unfold hierarchicalPath
  split
  · split
    · decide
    · exact List.not_mem_nil
  · exact hpath _

end InvoiceGateway.Url
