import BranchDistance.Cache

/-!
# What a cache holds

A cache finds texts by their fingerprints, so it may give what another text with the same
fingerprint gave.  This makes no difference as long as texts with one fingerprint differ only in the
blanks around them (`Fingerprint.CollisionFree`): then what a lookup gives is what the text gives
(`Cache.map_lookup`), however the cache has been used before (`Cache.map_lookup_after`).
-/

namespace BranchDistance

/-- The target of a text does not depend on the blanks around it. -/
theorem Target.ofText?_eq_of_trimmed {a b : String} (h : Text.trimmed a = Text.trimmed b) :
    ofText? a = ofText? b := by
  unfold ofText?
  rw [h]

/-- Neither does its fingerprint. -/
theorem Fingerprint.ofText_eq_of_trimmed {a b : String} (h : Text.trimmed a = Text.trimmed b) :
    ofText a = ofText b := by
  unfold ofText
  rw [h]

/-- Some texts have one fingerprint only if they are the same up to the blanks around them. -/
def Fingerprint.CollisionFree (texts : List String) : Prop :=
  ∀ a ∈ texts, ∀ b ∈ texts, ofText a = ofText b → Text.trimmed a = Text.trimmed b

instance (texts : List String) : Decidable (Fingerprint.CollisionFree texts) :=
  inferInstanceAs (Decidable (∀ a ∈ texts, ∀ b ∈ texts, _ → _))

namespace Cache

variable {cache : Cache} {text : String} {texts : List String}

/-! ### One lookup -/

theorem lookup_of_some {result : Except TargetError Shared}
    (h : cache.get? (.ofText text) = some result) :
    cache.lookup text = (⟨result, true⟩, cache) := by
  unfold lookup
  dsimp only
  rw [h]

theorem lookup_of_none (h : cache.get? (.ofText text) = none) :
    cache.lookup text =
      (⟨(cache.insert (.ofText text) (Target.ofText? text)).1, false⟩,
        (cache.insert (.ofText text) (Target.ofText? text)).2) := by
  unfold lookup
  dsimp only
  rw [h]

/-- A lookup is a hit exactly if something is kept under the fingerprint. -/
theorem isHit_lookup (cache : Cache) (text : String) :
    (cache.lookup text).1.isHit = (cache.get? (.ofText text)).isSome := by
  cases h : cache.get? (.ofText text) with
  | some result => rw [lookup_of_some h]; rfl
  | none => rw [lookup_of_none h]; rfl

/-- What is kept is what was read, with a number. -/
theorem map_insert (cache : Cache) (f : Fingerprint) (result : Except TargetError Target) :
    (cache.insert f result).1.map (·.target) = result := by
  cases result <;> rfl

theorem get?_insert (cache : Cache) (f g : Fingerprint) (result : Except TargetError Target) :
    (cache.insert f result).2.get? g =
      if g = f then some (cache.insert f result).1 else cache.get? g := by
  have hlookup (kept : Except TargetError Shared) :
      List.lookup g ((f, kept) :: cache.entries) = if g = f then some kept else cache.get? g := by
    by_cases h : g = f
    · simp [h]
    · rw [if_neg h, List.lookup_cons, beq_false_of_ne h]
      rfl
  cases result with
  | ok target => exact hlookup _
  | error e => exact hlookup _

/-! ### What is kept -/

/-- Everything that is kept has been read from one of some texts. -/
def Holds (cache : Cache) (texts : List String) : Prop :=
  ∀ f result, cache.get? f = some result →
    ∃ t ∈ texts, f = .ofText t ∧ result.map (·.target) = Target.ofText? t

theorem holds_empty (texts : List String) : empty.Holds texts := fun _ _ h => by cases h

theorem holds_clear (cache : Cache) (texts : List String) : cache.clear.Holds texts :=
  fun _ _ h => by cases h

/-- A lookup keeps what its text gives. -/
theorem Holds.lookup (h : cache.Holds texts) (htext : text ∈ texts) :
    (cache.lookup text).2.Holds texts := by
  cases hget : cache.get? (.ofText text) with
  | some result =>
    rw [lookup_of_some hget]
    exact h
  | none =>
    rw [lookup_of_none hget]
    intro f result hf
    rw [get?_insert] at hf
    split at hf
    · next heq =>
      cases hf
      exact ⟨text, htext, heq, cache.map_insert _ _⟩
    · exact h f result hf

/-- Without collisions a lookup gives what its text gives. -/
theorem map_lookup (h : cache.Holds texts) (htext : text ∈ texts)
    (hfree : Fingerprint.CollisionFree texts) :
    (cache.lookup text).1.result.map (·.target) = Target.ofText? text := by
  cases hget : cache.get? (.ofText text) with
  | some result =>
    rw [lookup_of_some hget]
    obtain ⟨t, ht, hprint, hresult⟩ := h _ _ hget
    exact hresult.trans (Target.ofText?_eq_of_trimmed (hfree t ht text htext hprint.symm))
  | none =>
    rw [lookup_of_none hget]
    exact cache.map_insert _ _

/-! ### Reachable caches -/

/-- What is done with a cache. -/
inductive Use where
  | lookup (text : String)
  | clear

/-- The text that is looked up. -/
def Use.text? : Use → Option String
  | .lookup text => some text
  | .clear => none

/-- The cache after a use. -/
def use (cache : Cache) : Use → Cache
  | .lookup text => (cache.lookup text).2
  | .clear => cache.clear

/-- The cache after several uses. -/
def after (cache : Cache) (uses : List Use) : Cache := uses.foldl use cache

theorem after_append (cache : Cache) (uses later : List Use) :
    cache.after (uses ++ later) = (cache.after uses).after later :=
  List.foldl_append ..

/-- However a cache is used, what it keeps has been read from a text that was looked up. -/
theorem Holds.after {uses : List Use} (h : cache.Holds texts)
    (htexts : ∀ t ∈ uses.filterMap Use.text?, t ∈ texts) : (cache.after uses).Holds texts := by
  induction uses generalizing cache with
  | nil => exact h
  | cons u rest ih =>
    cases u with
    | lookup text =>
      obtain ⟨htext, hrest⟩ := List.forall_mem_cons.1 htexts
      exact ih (h.lookup htext) hrest
    | clear => exact ih (cache.holds_clear texts) htexts

/-- Without collisions a used cache gives what a text gives. -/
theorem map_lookup_after (uses : List Use) (text : String)
    (hfree : Fingerprint.CollisionFree (text :: uses.filterMap Use.text?)) :
    ((empty.after uses).lookup text).1.result.map (·.target) = Target.ofText? text :=
  map_lookup ((holds_empty _).after fun _ => List.mem_cons_of_mem text) List.mem_cons_self hfree

end Cache

end BranchDistance
