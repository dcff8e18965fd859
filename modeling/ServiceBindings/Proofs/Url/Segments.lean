import ServiceBindings.Proofs.Sequence
import ServiceBindings.Url.Reader

/-!
Segments. A slash always separates segments and never stands within one, whether the segments come from reading an
address or from appending a text to one.
-/

namespace ServiceBindings.Url

open Text

/-! ### Encoding -/

/-- A digit is one of sixteen, or the star that stands for a number that has none. -/
theorem hexDigit_mem (n : Nat) : hexDigit n ∈ "0123456789ABCDEF*".toList := by
  by_cases hn : n < 16
  · have hall : ∀ k < 16, hexDigit k ∈ "0123456789ABCDEF*".toList := by decide
    exact hall n hn
  · obtain ⟨k, rfl⟩ : ∃ k, n = k + 16 := ⟨n - 16, by omega⟩
    have hstar : hexDigit (k + 16) = '*' := rfl
    rw [hstar]
    decide

theorem mem_percentByte {b : Nat} {c : Char} (h : c ∈ percentByte b) : c ∈ "%0123456789ABCDEF*".toList := by
  have hdigit (n : Nat) : hexDigit n ∈ "%0123456789ABCDEF*".toList := List.mem_cons_of_mem '%' (hexDigit_mem n)
  simp only [percentByte, List.mem_cons, List.not_mem_nil, or_false] at h
  rcases h with rfl | rfl | rfl
  · decide
  · exact hdigit _
  · exact hdigit _

/-- What is in an encoded text was there before and is not encoded, or belongs to the code of something that is. -/
theorem mem_percentEncode {set : Char → Bool} {cs : List Char} {c : Char} (h : c ∈ percentEncode set cs) :
    (c ∈ cs ∧ set c = false) ∨ c ∈ "%0123456789ABCDEF*".toList := by
  obtain ⟨d, hd, hc⟩ := List.mem_flatMap.mp h
  cases hset : set d with
  | false =>
    obtain rfl : c = d := by simpa [hset] using hc
    exact .inl ⟨hd, hset⟩
  | true =>
    rw [hset, if_pos rfl] at hc
    obtain ⟨b, _, hb⟩ := List.mem_flatMap.mp hc
    exact .inr (mem_percentByte hb)

/-! ### Slashes -/

/-- Whether no segment has a slash in it. -/
def SlashFree (segments : List Segment) : Prop :=
  ∀ s ∈ segments, '/' ∉ s

theorem not_slash_mem_percentEncode {set : Char → Bool} {cs : List Char} (h : '/' ∈ cs → set '/' = true) :
    '/' ∉ percentEncode set cs := by
  intro hmem
  rcases mem_percentEncode hmem with ⟨hcs, hset⟩ | hcode
  · exact absurd (h hcs) (by simp [hset])
  · exact absurd hcode (by decide)

theorem SlashFree.append {front back : List Segment} (hfront : SlashFree front) (hback : SlashFree back) :
    SlashFree (front ++ back) := by
  intro s hs
  exact (List.mem_append.mp hs).elim (hfront s) (hback s)

theorem slashFree_singleton {s : Segment} (hs : '/' ∉ s) : SlashFree [s] := by
  intro t ht
  rwa [List.mem_singleton.mp ht]

theorem SlashFree.of_subset {front segments : List Segment} (h : SlashFree segments) (hsub : front ⊆ segments) :
    SlashFree front :=
  fun s hs => h s (hsub hs)

theorem parentFolder_subset (folders : List Segment) : parentFolder folders ⊆ folders := by
  unfold parentFolder
  split
  · split
    · exact List.Subset.refl _
    · exact List.dropLast_subset _
  · exact List.nil_subset _

/-- The folder where a segment leads is among the folders before, and what is left over has no new slash. -/
theorem resolve_slashFree (rule : PathRule) {folders : List Segment} {segment : Segment} (hfolders : SlashFree folders)
    (hsegment : '/' ∉ segment) :
    SlashFree (resolve rule folders segment).1 ∧ '/' ∉ (resolve rule folders segment).2 := by
  have hdrive : '/' ∉ segment.take 1 ++ [':'] := by
    intro hmem
    rcases List.mem_append.mp hmem with hmem | hmem
    · exact hsegment (List.mem_of_mem_take hmem)
    · exact absurd hmem (by decide)
  unfold resolve
  split
  · exact ⟨hfolders, List.not_mem_nil⟩
  · exact ⟨hfolders.of_subset (parentFolder_subset folders), List.not_mem_nil⟩
  · refine ⟨hfolders, ?_⟩
    dsimp only
    split
    · exact hdrive
    · exact hsegment

theorem enterSegment_slashFree (rule : PathRule) {folders : List Segment} {segment : Segment}
    (hfolders : SlashFree folders) (hsegment : '/' ∉ segment) : SlashFree (enterSegment rule folders segment) := by
  obtain ⟨hfirst, hsecond⟩ := resolve_slashFree rule hfolders hsegment
  unfold enterSegment
  split
  · exact hfirst
  · exact hfirst
  · exact hfolders.append (slashFree_singleton hsecond)

theorem endPath_slashFree (rule : PathRule) {folders : List Segment} {segment : Segment}
    (hfolders : SlashFree folders) (hsegment : '/' ∉ segment) : SlashFree (endPath rule folders segment) := by
  obtain ⟨hfirst, hsecond⟩ := resolve_slashFree rule hfolders hsegment
  exact hfirst.append (slashFree_singleton hsecond)

theorem dropEmptyFront_subset (segments : List Segment) : dropEmptyFront segments ⊆ segments := by
  fun_induction dropEmptyFront segments with
  | case1 s rest ih => exact fun t ht => List.mem_cons_of_mem _ (ih ht)
  | case2 segments => exact List.Subset.refl _

theorem normalizeFront_subset (rule : PathRule) (segments : List Segment) :
    normalizeFront rule segments ⊆ segments := by
  unfold normalizeFront
  split
  · exact dropEmptyFront_subset segments
  · exact List.Subset.refl _

/-! ### Reading -/

private theorem not_mem_of_mem_splitOnP {p : Char → Bool} {cs part : List Char} (h : part ∈ cs.splitOnP p) :
    ∀ c ∈ part, p c = false := by
  induction cs generalizing part with
  | nil =>
    obtain rfl : part = [] := by simpa using h
    simp
  | cons c rest ih =>
    rw [List.splitOnP_cons_eq_if_modifyHead] at h
    cases hc : p c with
    | true =>
      simp only [hc, if_true, List.mem_cons] at h
      rcases h with rfl | h
      · simp
      · exact ih h
    | false =>
      simp only [hc, Bool.false_eq_true, if_false] at h
      cases hparts : rest.splitOnP p with
      | nil => simp [hparts] at h
      | cons first others =>
        rw [hparts, List.modifyHead_cons] at h
        rcases List.mem_cons.mp h with rfl | h
        · exact List.forall_mem_cons.mpr ⟨hc, ih (by simp [hparts])⟩
        · exact ih (by simp [hparts, h])

theorem readSegments_slashFree (rule : PathRule) (text : List Char) : SlashFree (readSegments rule text) := by
  have hparts : ∀ part ∈ (text.splitOnP (isSeparator rule)).map (percentEncode pathSet), '/' ∉ part := by
    refine List.forall_mem_map.mpr fun part hpart => not_slash_mem_percentEncode fun hslash => ?_
    exact absurd (not_mem_of_mem_splitOnP hpart '/' hslash) (by simp [isSeparator])
  -- the folders are entered one by one, so the induction is on the parts, for any folders before them
  have hfolders : ∀ parts : List Segment, (∀ part ∈ parts, '/' ∉ part) → ∀ folders, SlashFree folders →
      SlashFree (parts.foldl (enterSegment rule) folders) := by
    intro parts
    induction parts with
    | nil => exact fun _ folders hfolders => hfolders
    | cons part rest ih =>
      intro hall folders hfolders
      obtain ⟨hpart, hrest⟩ := List.forall_mem_cons.mp hall
      exact ih hrest _ (enterSegment_slashFree rule hfolders hpart)
  refine endPath_slashFree rule (hfolders _ (fun part hpart => hparts part (List.dropLast_subset _ hpart)) [] ?_) ?_
  · exact fun s hs => absurd hs List.not_mem_nil
  · cases hlast : ((text.splitOnP (isSeparator rule)).map (percentEncode pathSet)).getLast? with
    | none => simp
    | some part => exact hparts part (List.mem_of_getLast? hlast)

theorem readRooted_slashFree (rule : PathRule) (text : List Char) : SlashFree (readRooted rule text).1 :=
  (readSegments_slashFree rule text).of_subset (normalizeFront_subset rule _)

theorem readFile_path {rule : PathRule} {body : List Char} {host : Host} {segments : Segments}
    (h : readFile rule body = .ok (host, segments)) : ∃ text, segments = readRooted rule text := by
  have hlast {place : Except UrlError (Host × List Char)} (hplace : (place >>= fun found =>
      pure (if (readSegments rule found.2).head?.any isDrive then Host.name [] else found.1,
        readRooted rule found.2)) = .ok (host, segments)) : ∃ text, segments = readRooted rule text := by
    simp only [bind_eq_ok, pure_eq_ok, Prod.mk.injEq] at hplace
    obtain ⟨⟨_, path⟩, _, _, rfl⟩ := hplace
    exact ⟨path, rfl⟩
  unfold readFile at h
  dsimp only at h
  split at h
  · split at h
    · split at h
      · exact hlast h
      · split at h
        · exact hlast h
        · obtain ⟨domain, _, h⟩ := bind_eq_ok.mp h
          exact hlast h
    · exact hlast h
  · exact hlast h

theorem readSpecial_path {scheme : String} {rule : PathRule} {body : List Char} {more : Bool} {authority : Authority}
    {segments : Segments} (h : readSpecial scheme rule body more = .ok (authority, segments)) :
    ∃ text, segments = readRooted rule text := by
  simp only [readSpecial, bind_eq_ok, pure_eq_ok, Prod.mk.injEq] at h
  obtain ⟨_, _, _, rfl⟩ := h
  exact ⟨_, rfl⟩

theorem readOther_slashFree {scheme : String} {rule : PathRule} {body : List Char} {more : Bool}
    {authority : Option Authority} {path : Path} (h : readOther scheme rule body more = .ok (authority, path)) :
    SlashFree path.segments := by
  unfold readOther at h
  split at h
  · simp only [bind_eq_ok, pure_eq_ok, Prod.mk.injEq] at h
    obtain ⟨⟨a, left⟩, _, _, rfl⟩ := h
    split
    · exact fun s hs => absurd hs List.not_mem_nil
    · exact readRooted_slashFree _ _
  · cases h
    exact readRooted_slashFree _ _
  · cases h
    exact fun s hs => absurd hs List.not_mem_nil

/-- No segment of an address that was read has a slash in it. -/
theorem parse_slashFree {s : String} {u : Url} (h : parse s = .ok u) : SlashFree u.path.segments := by
  unfold parse at h
  dsimp only at h
  split at h
  · cases h
  · split at h
    · simp only [bind_eq_ok, pure_eq_ok] at h
      obtain ⟨⟨host, segments⟩, hfile, rfl⟩ := h
      obtain ⟨text, rfl⟩ := readFile_path hfile
      exact readRooted_slashFree _ text
    · split at h
      · simp only [bind_eq_ok, pure_eq_ok] at h
        obtain ⟨⟨authority, segments⟩, hspecial, rfl⟩ := h
        obtain ⟨text, rfl⟩ := readSpecial_path hspecial
        exact readRooted_slashFree _ text
      · simp only [bind_eq_ok, pure_eq_ok] at h
        obtain ⟨⟨authority, path⟩, hother, rfl⟩ := h
        exact readOther_slashFree hother

end ServiceBindings.Url
