import Mathlib.Data.List.Dedup
import Mathlib.Order.Nat
import BranchDistance.Proofs.Cache

/-!
# The identity of targets in a cache

A target that is kept is given again, with its number, until the cache is cleared.  So the numbers
tell which lookups of a run share their target.

* `recent` are the texts that have been looked up since the cache was last cleared.
* `Keeps` ties a cache to these texts and to the numbers that were in use before; every use keeps it
  (`Keeps.after`).
* A lookup is a hit exactly if its text is recent up to the blanks around it, and two lookups share
  their target exactly if no clearing and no difference of texts comes between them
  (`lookups_identify`).
-/

namespace BranchDistance

/-- A fingerprint is made of the trimmed text alone. -/
theorem Fingerprint.exists_ofTrimmed :
    ∃ print : String → Fingerprint, ∀ t, ofText t = print (Text.trimmed t) :=
  ⟨fun s => ⟨Digest.sha256 (mark.toUTF8.toList ++ Digest.bigEndian 8 s.toUTF8.toList.length ++
    s.toUTF8.toList)⟩, fun _ => rfl⟩

namespace Cache

variable {cache : Cache} {first : Nat} {text : String} {texts : List String} {uses : List Use}

/-! ### The texts of a run -/

/-- The texts after a use of the cache; clearing it forgets them. -/
def remember (texts : List String) : Use → List String
  | .lookup text => texts ++ [text]
  | .clear => []

/-- The texts that have been looked up since the cache was last cleared. -/
def recent (uses : List Use) : List String := uses.foldl remember []

theorem mem_foldl_remember {t : String} (h : t ∈ uses.foldl remember texts) :
    t ∈ texts ∨ t ∈ uses.filterMap Use.text? := by
  induction uses generalizing texts with
  | nil => exact .inl h
  | cons u rest ih =>
    cases u with
    | lookup text =>
      rcases ih h with h | h
      · rcases List.mem_append.1 h with h | h
        · exact .inl h
        · obtain rfl := List.mem_singleton.1 h
          exact .inr List.mem_cons_self
      · exact .inr (List.mem_cons_of_mem text h)
    | clear =>
      rcases ih h with h | h
      · cases h
      · exact .inr h

theorem mem_recent {t : String} (h : t ∈ recent uses) : t ∈ uses.filterMap Use.text? :=
  (mem_foldl_remember h).resolve_left List.not_mem_nil

/-! ### What stays -/

/-- What a lookup gives is kept. -/
theorem get?_lookup (cache : Cache) (text : String) :
    (cache.lookup text).2.get? (.ofText text) = some (cache.lookup text).1.result := by
  cases hget : cache.get? (.ofText text) with
  | some result =>
    rw [lookup_of_some hget]
    exact hget
  | none =>
    rw [lookup_of_none hget, get?_insert, if_pos rfl]

/-- A lookup replaces nothing. -/
theorem get?_lookup_of_some {f : Fingerprint} {result : Except TargetError Shared}
    (h : cache.get? f = some result) (text : String) :
    (cache.lookup text).2.get? f = some result := by
  cases hget : cache.get? (.ofText text) with
  | some kept =>
    rw [lookup_of_some hget]
    exact h
  | none =>
    have hne : f ≠ .ofText text := by
      rintro rfl
      rw [hget] at h
      cases h
    rw [lookup_of_none hget, get?_insert, if_neg hne]
    exact h

/-- What is kept stays until the cache is cleared. -/
theorem get?_after_of_some {f : Fingerprint} {result : Except TargetError Shared}
    (h : cache.get? f = some result) (hclear : .clear ∉ uses) :
    (cache.after uses).get? f = some result := by
  induction uses generalizing cache with
  | nil => exact h
  | cons u rest ih =>
    obtain ⟨hu, hrest⟩ := not_or.1 (mt List.mem_cons.2 hclear)
    cases u with
    | lookup text => exact ih (get?_lookup_of_some h text) hrest
    | clear => exact absurd rfl hu

/-! ### Numbers and keys -/

/-- The fingerprints under which something is kept. -/
def keys (cache : Cache) : List Fingerprint := cache.entries.map Prod.fst

theorem size_eq (cache : Cache) : cache.size = cache.keys.length := (List.length_map _).symm

theorem get?_eq_none_iff {f : Fingerprint} : cache.get? f = none ↔ f ∉ cache.keys := by
  unfold get? keys
  induction cache.entries with
  | nil => simp
  | cons entry rest ih =>
    obtain ⟨g, kept⟩ := entry
    by_cases h : f = g
    · simp [h]
    · rw [List.lookup_cons, beq_false_of_ne h, List.map_cons, List.mem_cons, not_or, ← ih]
      exact ⟨fun hnone => ⟨h, hnone⟩, And.right⟩

theorem keys_insert (cache : Cache) (f : Fingerprint) (result : Except TargetError Target) :
    (cache.insert f result).2.keys = f :: cache.keys := by
  cases result <;> rfl

theorem made_le_insert (cache : Cache) (f : Fingerprint) (result : Except TargetError Target) :
    cache.made ≤ (cache.insert f result).2.made := by
  cases result with
  | ok target => exact Nat.le_succ _
  | error e => exact le_rfl

/-- A target gets the next number. -/
theorem number_insert {f : Fingerprint} {result : Except TargetError Target} {s : Shared}
    (h : (cache.insert f result).1 = .ok s) :
    s.number = cache.made ∧ (cache.insert f result).2.made = cache.made + 1 := by
  cases result with
  | ok target =>
    cases h
    exact ⟨rfl, rfl⟩
  | error e => cases h

/-- What a cache keeps if some texts have been looked up since it was empty, and the numbers up to
`first` were in use before. -/
structure Keeps (cache : Cache) (first : Nat) (texts : List String) : Prop where
  /-- Each fingerprint has one entry. -/
  nodup : cache.keys.Nodup
  mem_keys : ∀ f, f ∈ cache.keys ↔ ∃ t ∈ texts, f = .ofText t
  le : first ≤ cache.made
  /-- Numbers are given out in order. -/
  range : ∀ f s, cache.get? f = some (.ok s) → first ≤ s.number ∧ s.number < cache.made
  /-- No number is given out twice. -/
  injective : ∀ f g s s', cache.get? f = some (.ok s) → cache.get? g = some (.ok s') →
    s.number = s'.number → f = g

namespace Keeps

theorem of_isEmpty (cache : Cache) (h : cache.entries = []) : cache.Keeps cache.made [] := by
  have hnone (f : Fingerprint) : cache.get? f = none := by
    unfold get?
    rw [h]
    rfl
  constructor
  case nodup => simp [keys, h]
  case mem_keys => simp [keys, h]
  case le => exact le_rfl
  case range =>
    intro f s hf
    rw [hnone] at hf
    cases hf
  case injective =>
    intro f g s s' hf
    rw [hnone] at hf
    cases hf

theorem insert (h : cache.Keeps first texts) (hget : cache.get? (.ofText text) = none)
    (result : Except TargetError Target) :
    (cache.insert (.ofText text) result).2.Keeps first (texts ++ [text]) := by
  have hmade := made_le_insert cache (.ofText text) result
  -- an entry with a number is new, with the next number, or an old one with a smaller number
  have hnew (f : Fingerprint) (s : Shared)
      (hf : (cache.insert (.ofText text) result).2.get? f = some (.ok s)) :
      f = .ofText text ∧ s.number = cache.made ∧
          (cache.insert (.ofText text) result).2.made = cache.made + 1 ∨
        cache.get? f = some (.ok s) := by
    rw [get?_insert] at hf
    split at hf
    · next heq => exact .inl ⟨heq, number_insert (Option.some.inj hf)⟩
    · exact .inr hf
  constructor
  case nodup =>
    rw [keys_insert]
    exact List.nodup_cons.2 ⟨get?_eq_none_iff.1 hget, h.nodup⟩
  case mem_keys =>
    intro f
    rw [keys_insert, List.mem_cons, h.mem_keys]
    simp only [List.mem_append, List.mem_singleton, or_and_right, exists_or, exists_eq_left]
    exact or_comm
  case le => exact h.le.trans hmade
  case range =>
    intro f s hf
    rcases hnew f s hf with ⟨-, hs, hnext⟩ | hold
    · have := h.le
      omega
    · exact ⟨(h.range f s hold).1, (h.range f s hold).2.trans_le hmade⟩
  case injective =>
    intro f g s s' hf hg heq
    rcases hnew f s hf with ⟨hf, hs, -⟩ | hf <;> rcases hnew g s' hg with ⟨hg, hs', -⟩ | hg
    · rw [hf, hg]
    · have := (h.range g s' hg).2
      omega
    · have := (h.range f s hf).2
      omega
    · exact h.injective f g s s' hf hg heq

theorem lookup (h : cache.Keeps first texts) (text : String) :
    (cache.lookup text).2.Keeps first (texts ++ [text]) := by
  cases hget : cache.get? (.ofText text) with
  | none =>
    rw [lookup_of_none hget]
    exact h.insert hget _
  | some result =>
    rw [lookup_of_some hget]
    refine { h with mem_keys := fun f => ?_ }
    -- the text is one that has the fingerprint of an earlier one
    have hmem : .ofText text ∈ cache.keys := by
      by_contra hnot
      rw [get?_eq_none_iff.2 hnot] at hget
      cases hget
    rw [h.mem_keys]
    constructor
    · rintro ⟨t, ht, rfl⟩
      exact ⟨t, List.mem_append_left _ ht, rfl⟩
    · rintro ⟨t, ht, rfl⟩
      rcases List.mem_append.1 ht with ht | ht
      · exact ⟨t, ht, rfl⟩
      · obtain rfl := List.mem_singleton.1 ht
        exact (h.mem_keys _).1 hmem

theorem made_le_lookup (cache : Cache) (text : String) :
    cache.made ≤ (cache.lookup text).2.made := by
  cases hget : cache.get? (.ofText text) with
  | some result => exact (congrArg (·.2.made) (lookup_of_some hget)).ge
  | none =>
    rw [lookup_of_none hget]
    exact made_le_insert cache _ _

/-- However a cache is used, it keeps what has been looked up since it was last cleared.  The
numbers in use before a clearing are not used again. -/
theorem after (h : cache.Keeps first texts) (uses : List Use) :
    ∃ first', (cache.after uses).Keeps first' (uses.foldl remember texts) ∧ first ≤ first' ∧
      (.clear ∈ uses → cache.made ≤ first') := by
  induction uses generalizing cache first texts with
  | nil => exact ⟨first, h, le_rfl, by simp⟩
  | cons u rest ih =>
    cases u with
    | lookup text =>
      obtain ⟨first', hkeeps, hle, hclear⟩ := ih (h.lookup text)
      refine ⟨first', hkeeps, hle, fun hmem => (made_le_lookup cache text).trans (hclear ?_)⟩
      exact (List.mem_cons.1 hmem).resolve_left (by simp)
    | clear =>
      obtain ⟨first', hkeeps, hle, -⟩ := ih (of_isEmpty cache.clear rfl)
      exact ⟨first', hkeeps, h.le.trans hle, fun _ => hle⟩

end Keeps

theorem keeps_after (uses : List Use) : ∃ first, (empty.after uses).Keeps first (recent uses) := by
  obtain ⟨first, hkeeps, -⟩ := Keeps.after (.of_isEmpty empty rfl) uses
  exact ⟨first, hkeeps⟩

/-! ### The identity of targets -/

/-- What a run of uses of a new cache shows of the identity of its targets. -/
structure Identifies (uses : List Use) : Prop where
  /-- A lookup is a hit exactly if its text has been looked up since the cache was cleared. -/
  hit : ∀ before text later, uses = before ++ .lookup text :: later →
    (((empty.after before).lookup text).1.isHit = true ↔
      ∃ t ∈ recent before, Text.trimmed t = Text.trimmed text)
  /-- There is an entry for each of these texts, whether it has a target or not. -/
  size : ∀ before later, uses = before ++ later →
    (empty.after before).size = ((recent before).map Text.trimmed).dedup.length
  /-- Lookups of one text give the same target, or the same error, until the cache is cleared. -/
  same : ∀ before a between b later,
    uses = before ++ .lookup a :: (between ++ .lookup b :: later) →
      .clear ∉ between → Text.trimmed a = Text.trimmed b →
        ((empty.after (before ++ .lookup a :: between)).lookup b).1.result =
          ((empty.after before).lookup a).1.result
  /-- Nothing else gives the same target. -/
  distinct : ∀ before a between b later,
    uses = before ++ .lookup a :: (between ++ .lookup b :: later) → ∀ s s',
      ((empty.after before).lookup a).1.result = .ok s →
      ((empty.after (before ++ .lookup a :: between)).lookup b).1.result = .ok s' →
        s.number = s'.number → .clear ∉ between ∧ Text.trimmed a = Text.trimmed b

theorem isHit_after_iff {before : List Use}
    (hfree : Fingerprint.CollisionFree (text :: before.filterMap Use.text?)) :
    ((empty.after before).lookup text).1.isHit = true ↔
      ∃ t ∈ recent before, Text.trimmed t = Text.trimmed text := by
  obtain ⟨first, hkeeps⟩ := keeps_after before
  have hkey : ((empty.after before).lookup text).1.isHit = true ↔
      .ofText text ∈ (empty.after before).keys := by
    rw [isHit_lookup, Option.isSome_iff_ne_none, ne_eq, get?_eq_none_iff, not_not]
  rw [hkey, hkeeps.mem_keys]
  constructor
  · rintro ⟨t, ht, hprint⟩
    exact ⟨t, ht, hfree t (List.mem_cons_of_mem _ (mem_recent ht)) text List.mem_cons_self
      hprint.symm⟩
  · rintro ⟨t, ht, htrimmed⟩
    exact ⟨t, ht, (Fingerprint.ofText_eq_of_trimmed htrimmed).symm⟩

theorem size_after {before : List Use}
    (hfree : Fingerprint.CollisionFree (before.filterMap Use.text?)) :
    (empty.after before).size = ((recent before).map Text.trimmed).dedup.length := by
  obtain ⟨first, hkeeps⟩ := keeps_after before
  obtain ⟨print, hprint⟩ := Fingerprint.exists_ofTrimmed
  have hinjective : ∀ x ∈ ((recent before).map Text.trimmed).dedup,
      ∀ y ∈ ((recent before).map Text.trimmed).dedup, print x = print y → x = y := by
    simp only [List.mem_dedup, List.mem_map]
    rintro _ ⟨t, ht, rfl⟩ _ ⟨u, hu, rfl⟩ h
    exact hfree t (mem_recent ht) u (mem_recent hu) (by rw [hprint, hprint, h])
  have hnodup := (List.nodup_dedup ((recent before).map Text.trimmed)).map_on hinjective
  have hperm : (empty.after before).keys.Perm
      (((recent before).map Text.trimmed).dedup.map print) := by
    refine (List.perm_ext_iff_of_nodup hkeeps.nodup hnodup).2 fun f => ?_
    rw [hkeeps.mem_keys]
    simp only [List.mem_map, List.mem_dedup, exists_exists_and_eq_and, hprint, eq_comm (a := f)]
  rw [size_eq, hperm.length_eq, List.length_map]

/-- Two lookups share their target only if nothing comes between them. -/
theorem not_clear_of_number_eq {before between : List Use} {a b : String} {s s' : Shared}
    (hs : ((empty.after before).lookup a).1.result = .ok s)
    (hs' : ((empty.after (before ++ .lookup a :: between)).lookup b).1.result = .ok s')
    (hnumber : s.number = s'.number) :
    .clear ∉ between ∧ Fingerprint.ofText a = .ofText b := by
  obtain ⟨first, hbefore⟩ := keeps_after before
  have hafter : empty.after (before ++ .lookup a :: between) =
      ((empty.after before).lookup a).2.after between := after_append empty before _
  rw [hafter] at hs'
  have ha := get?_lookup (empty.after before) a
  have hb := get?_lookup (((empty.after before).lookup a).2.after between) b
  rw [hs] at ha
  rw [hs'] at hb
  have hfirst := hbefore.lookup a
  obtain ⟨first', hbetween, -, hclear⟩ := hfirst.after between
  have hsecond := hbetween.lookup b
  have hnot : .clear ∉ between := by
    -- the second target would have been made later than the first
    intro hmem
    have hlt := (hfirst.range _ _ ha).2
    have hle := (hsecond.range _ _ hb).1
    have := hclear hmem
    omega
  exact ⟨hnot, hsecond.injective _ _ _ _ (get?_lookup_of_some (get?_after_of_some ha hnot) b) hb
    hnumber⟩

/-- In a run of uses of a new cache the texts and the clearings decide which lookups are hits, how
many entries there are, and which lookups share a target or an error. -/
theorem lookups_identify (uses : List Use)
    (hfree : Fingerprint.CollisionFree (uses.filterMap Use.text?)) : Identifies uses := by
  have hmono {texts : List String} (h : ∀ t ∈ texts, t ∈ uses.filterMap Use.text?) :
      Fingerprint.CollisionFree texts := fun t ht u hu => hfree t (h t ht) u (h u hu)
  constructor
  case hit =>
    rintro before text later rfl
    refine isHit_after_iff (hmono fun t ht => ?_)
    rw [List.filterMap_append, List.mem_append]
    exact (List.mem_cons.1 ht).elim (fun h => .inr (h ▸ List.mem_cons_self)) .inl
  case size =>
    rintro before later rfl
    refine size_after (hmono fun t ht => ?_)
    rw [List.filterMap_append]
    exact List.mem_append_left _ ht
  case same =>
    rintro before a between b later - hclear htrimmed
    have hkept : (((empty.after before).lookup a).2.after between).get? (.ofText b) =
        some ((empty.after before).lookup a).1.result := by
      rw [← Fingerprint.ofText_eq_of_trimmed htrimmed]
      exact get?_after_of_some (get?_lookup _ a) hclear
    rw [after_append]
    exact congrArg (·.1.result) (lookup_of_some hkept)
  case distinct =>
    rintro before a between b later rfl s s' hs hs' hnumber
    obtain ⟨hclear, hprint⟩ := not_clear_of_number_eq hs hs' hnumber
    refine ⟨hclear, hfree a ?_ b ?_ hprint⟩
    · simp [Use.text?]
    · simp [Use.text?]

/-- A text that is looked up with blanks around it, before and after a clearing, and one that has no
target. -/
theorem lookups_identify_cleared :
    let uses : List Use :=
      [.lookup "x = 1", .lookup "x =", .lookup " x = 1", .lookup "x = ", .clear, .lookup "x = 1"]
    Fingerprint.CollisionFree (uses.filterMap Use.text?) ∧
      (empty.after (uses.take 4)).size = 2 ∧
      ((empty.after (uses.take 3)).lookup "x = ").1.isHit = true ∧
      ((empty.after (uses.take 3)).lookup "x = ").1.result =
        ((empty.after (uses.take 1)).lookup "x =").1.result ∧
      ∀ s s', ((empty.after []).lookup "x = 1").1.result = .ok s →
        ((empty.after (uses.take 5)).lookup "x = 1").1.result = .ok s' → s.number ≠ s'.number := by
  intro uses
  have hfree : Fingerprint.CollisionFree (uses.filterMap Use.text?) := by decide +kernel
  have h := lookups_identify uses hfree
  refine ⟨hfree, (h.size (uses.take 4) (uses.drop 4) rfl).trans (by decide +kernel),
    (h.hit (uses.take 3) "x = " (uses.drop 4) rfl).2 ⟨"x =", by decide, by decide +kernel⟩,
    h.same (uses.take 1) "x =" [.lookup " x = 1"] "x = " (uses.drop 4) rfl (by simp)
      (by decide +kernel), fun s s' hs hs' hnumber => ?_⟩
  have hclear := (h.distinct [] "x = 1" ((uses.take 5).drop 1) "x = 1" [] rfl s s' hs hs' hnumber).1
  exact hclear (by simp [uses])

end Cache

end BranchDistance
