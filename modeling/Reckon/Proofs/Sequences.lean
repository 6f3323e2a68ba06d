import Mathlib.Control.Monad.Basic
import Mathlib.Data.List.Forall2

/-! Lists in parts, arrays that grow by lists, and results, beyond what the library says about
them. -/

namespace Reckon

section Results

variable {ε δ α β : Type}

@[simp] theorem mapError_eq_ok {f : ε → δ} {result : Except ε α} {value : α} :
    result.mapError f = .ok value ↔ result = .ok value := by
  cases result <;> simp [Except.mapError]

@[simp] theorem mapError_eq_error {f : ε → δ} {result : Except ε α} {failure : δ} :
    result.mapError f = .error failure ↔ ∃ cause, result = .error cause ∧ f cause = failure := by
  cases result <;> simp [Except.mapError]

theorem bind_eq_ok {result : Except ε α} {next : α → Except ε β} {value : β} :
    result.bind next = .ok value ↔ ∃ first, result = .ok first ∧ next first = .ok value := by
  cases result <;> simp [Except.bind]

theorem bind_eq_error {result : Except ε α} {next : α → Except ε β} {failure : ε} :
    result.bind next = .error failure ↔
      result = .error failure ∨ ∃ first, result = .ok first ∧ next first = .error failure := by
  cases result <;> simp [Except.bind]

end Results

theorem append_append_list {α : Type} (first : Array α) (second third : List α) :
    first ++ second ++ third = first ++ (second ++ third) := by
  apply Array.toList_inj.1
  simp

theorem append_array_list {α : Type} (first second : Array α) (third : List α) :
    first ++ second ++ third = first ++ (second ++ third) := by
  apply Array.toList_inj.1
  simp

theorem append_cons_cases {α : Type} {first second before behind : List α} {one other : α}
    (parts : first ++ one :: second = before ++ other :: behind) :
    (∃ middle, first = before ++ other :: middle ∧ behind = middle ++ one :: second) ∨
      (before = first ∧ other = one ∧ behind = second) ∨
        ∃ middle, before = first ++ one :: middle ∧ second = middle ++ other :: behind := by
  rcases List.append_eq_append_iff.1 parts with ⟨middle, rfl, split⟩ | ⟨middle, rfl, split⟩
  · cases middle with
    | nil =>
      injection split with same tail
      exact .inr (.inl ⟨List.append_nil first, same.symm, tail.symm⟩)
    | cons head middle =>
      injection split with same tail
      exact .inr (.inr ⟨middle, by rw [same], tail⟩)
  · cases middle with
    | nil =>
      injection split with same tail
      exact .inr (.inl ⟨(List.append_nil before).symm, same, tail⟩)
    | cons head middle =>
      injection split with same tail
      exact .inl ⟨middle, by rw [same], tail⟩

theorem stops_dropWhile {α : Type} (test : α → Bool) (items : List α) :
    ∀ item ∈ (items.dropWhile test).head?, test item = false := by
  intro item head
  have stops := List.head?_dropWhile_not test items
  rw [Option.mem_def.1 head] at stops
  simpa using stops

theorem map_mapM_cons {ε α β γ : Type} (f : α → Except ε β) (g : List β → γ) (head : α)
    (tail : List α) :
    ((head :: tail).mapM f).map g =
      (f head).bind fun first => (tail.mapM f).map fun others => g (first :: others) := by
  rw [List.mapM_cons]
  cases f head with
  | error failure => rfl
  | ok first =>
    simp only [bind, Except.bind]
    cases tail.mapM f <;> rfl

theorem mapM_cons_of_ok {ε α β : Type} {f : α → Except ε β} {head : α} {tail : List α} {first : β}
    {others : List β} (headOk : f head = .ok first) (tailOk : tail.mapM f = .ok others) :
    (head :: tail).mapM f = .ok (first :: others) := by
  rw [List.mapM_cons, headOk, tailOk]
  rfl

theorem mapM_cons_eq_ok {ε α β : Type} {f : α → Except ε β} {head : α} {tail : List α}
    {results : List β} (ok : (head :: tail).mapM f = .ok results) :
    ∃ first others, f head = .ok first ∧ tail.mapM f = .ok others ∧ results = first :: others := by
  rw [List.mapM_cons] at ok
  obtain ⟨first, headOk, ok⟩ := bind_eq_ok.1 ok
  obtain ⟨others, tailOk, ok⟩ := bind_eq_ok.1 ok
  exact ⟨first, others, headOk, tailOk, (Except.ok.inj ok).symm⟩

theorem mapM_eq_ok_iff {ε α β : Type} {f : α → Except ε β} {items : List α} {results : List β} :
    items.mapM f = .ok results ↔
      List.Forall₂ (fun item result => f item = .ok result) items results := by
  induction items generalizing results with
  | nil =>
    rw [List.forall₂_nil_left_iff]
    exact ⟨fun none => (Except.ok.inj none).symm, fun none => none ▸ rfl⟩
  | cons head tail ih =>
    rw [List.forall₂_cons_left_iff]
    constructor
    · intro ok
      obtain ⟨first, others, headOk, tailOk, same⟩ := mapM_cons_eq_ok ok
      exact ⟨first, others, headOk, ih.1 tailOk, same⟩
    · rintro ⟨first, others, headOk, tailOk, rfl⟩
      exact mapM_cons_of_ok headOk (ih.2 tailOk)

theorem mapM_eq_error_iff {ε α β : Type} {f : α → Except ε β} {items : List α} {failure : ε} :
    items.mapM f = .error failure ↔ ∃ front item back, items = front ++ item :: back ∧
      (∀ good ∈ front, ∃ result, f good = .ok result) ∧ f item = .error failure := by
  constructor
  · intro failed
    induction items with
    | nil => cases failed
    | cons head tail ih =>
      rw [List.mapM_cons] at failed
      rcases bind_eq_error.1 failed with headFails | ⟨first, headOk, failed⟩
      · exact ⟨[], head, tail, rfl, nofun, headFails⟩
      · rcases bind_eq_error.1 failed with tailFails | ⟨others, _, ok⟩
        · obtain ⟨front, item, back, rfl, good, fails⟩ := ih tailFails
          exact ⟨head :: front, item, back, rfl, List.forall_mem_cons.2 ⟨⟨first, headOk⟩, good⟩, fails⟩
        · cases ok
  · rintro ⟨front, item, back, rfl, good, fails⟩
    induction front with
    | nil =>
      rw [List.nil_append, List.mapM_cons, fails]
      rfl
    | cons head front ih =>
      obtain ⟨⟨first, headOk⟩, others⟩ := List.forall_mem_cons.1 good
      rw [List.cons_append, List.mapM_cons, headOk]
      exact bind_eq_error.2 (.inr ⟨first, rfl, bind_eq_error.2 (.inl (ih others))⟩)

theorem exists_mapM_eq_ok_iff {ε α β : Type} {f : α → Except ε β} {items : List α} :
    (∃ results, items.mapM f = .ok results) ↔ ∀ item ∈ items, ∃ result, f item = .ok result := by
  induction items with
  | nil => exact ⟨fun _ => nofun, fun _ => ⟨[], rfl⟩⟩
  | cons head tail ih =>
    rw [List.forall_mem_cons, ← ih]
    constructor
    · rintro ⟨results, ok⟩
      obtain ⟨first, others, headOk, tailOk, _⟩ := mapM_cons_eq_ok ok
      exact ⟨⟨first, headOk⟩, others, tailOk⟩
    · rintro ⟨⟨first, headOk⟩, others, tailOk⟩
      exact ⟨first :: others, mapM_cons_of_ok headOk tailOk⟩

theorem mapM_eq_error {ε α β : Type} {f : α → Except ε β} {items : List α} {failure : ε}
    (failed : items.mapM f = .error failure) : ∃ item ∈ items, f item = .error failure := by
  obtain ⟨front, item, back, rfl, _, fails⟩ := mapM_eq_error_iff.1 failed
  exact ⟨item, List.mem_append_right _ List.mem_cons_self, fails⟩

theorem exists_mem_of_forall₂ {α β : Type} {related : α → β → Prop} {items : List α} {others : List β}
    (rows : List.Forall₂ related items others) {item : α} (member : item ∈ items) :
    ∃ other ∈ others, related item other := by
  induction rows with
  | nil => cases member
  | @cons head other _ _ pair _ ih =>
    rcases List.mem_cons.1 member with rfl | later
    · exact ⟨other, List.mem_cons_self, pair⟩
    · obtain ⟨found, inside, pair⟩ := ih later
      exact ⟨found, List.mem_cons_of_mem _ inside, pair⟩

theorem exists_mem_of_mapM {ε α β : Type} {f : α → Except ε β} {items : List α} {results : List β}
    (ok : items.mapM f = .ok results) {item : α} (member : item ∈ items) :
    ∃ result ∈ results, f item = .ok result :=
  exists_mem_of_forall₂ (mapM_eq_ok_iff.1 ok) member

theorem mem_of_mapM {ε α β : Type} {f : α → Except ε β} {items : List α} {results : List β}
    (ok : items.mapM f = .ok results) {result : β} (member : result ∈ results) :
    ∃ item ∈ items, f item = .ok result :=
  exists_mem_of_forall₂ (mapM_eq_ok_iff.1 ok).flip member

theorem flatMap_of_mapM {ε α β γ : Type} {f : α → Except ε β} {before : α → List γ}
    {after : β → List γ} {items : List α} {results : List β} (ok : items.mapM f = .ok results)
    (same : ∀ item ∈ items, ∀ result, f item = .ok result → after result = before item) :
    results.flatMap after = items.flatMap before := by
  induction items generalizing results with
  | nil =>
    cases ok
    rfl
  | cons head tail ih =>
    obtain ⟨first, others, headOk, tailOk, rfl⟩ := mapM_cons_eq_ok ok
    obtain ⟨headSame, tailSame⟩ := List.forall_mem_cons.1 same
    rw [List.flatMap_cons, List.flatMap_cons, headSame first headOk, ih tailOk tailSame]

theorem pairwise_of_mapM {ε α β : Type} {f : α → Except ε β} {before : α → α → Prop}
    {after : β → β → Prop} {items : List α} {results : List β} (ok : items.mapM f = .ok results)
    (ordered : items.Pairwise before)
    (carried : ∀ first second, before first second → ∀ one other, f first = .ok one →
      f second = .ok other → after one other) : results.Pairwise after := by
  induction items generalizing results with
  | nil =>
    injection ok with ok
    rw [← ok]
    exact .nil
  | cons head tail ih =>
    obtain ⟨first, others, headOk, tailOk, rfl⟩ := mapM_cons_eq_ok ok
    obtain ⟨headFirst, tailOrdered⟩ := List.pairwise_cons.1 ordered
    refine .cons ?_ (ih tailOk tailOrdered)
    intro other member
    obtain ⟨item, inside, itemOk⟩ := mem_of_mapM tailOk member
    exact carried head item (headFirst item inside) first other headOk itemOk

theorem mapM_append_eq_ok {ε α β : Type} {f : α → Except ε β} {first second : List α}
    {results : List β} (ok : (first ++ second).mapM f = .ok results) :
    ∃ front back, first.mapM f = .ok front ∧ second.mapM f = .ok back ∧
      results = front ++ back := by
  rw [List.mapM_append] at ok
  obtain ⟨front, firstOk, ok⟩ := bind_eq_ok.1 ok
  obtain ⟨back, secondOk, ok⟩ := bind_eq_ok.1 ok
  exact ⟨front, back, firstOk, secondOk, (Except.ok.inj ok).symm⟩

theorem mapM_append_of_ok {ε α β : Type} {f : α → Except ε β} {first second : List α}
    {front back : List β} (firstOk : first.mapM f = .ok front) (secondOk : second.mapM f = .ok back) :
    (first ++ second).mapM f = .ok (front ++ back) := by
  rw [List.mapM_append, firstOk, secondOk]
  rfl

theorem pair_sublist_of_pairwise {α : Type} {related : α → α → Prop} {items : List α}
    (ordered : items.Pairwise related) {first second : α} (firstMember : first ∈ items)
    (secondMember : second ∈ items) (different : second ≠ first) (apart : ¬related second first) :
    [first, second].Sublist items := by
  obtain ⟨front, back, rfl⟩ := List.append_of_mem firstMember
  obtain ⟨_, _, across⟩ := List.pairwise_append.1 ordered
  rcases List.mem_append.1 secondMember with inFront | behind
  · exact absurd (across second inFront first List.mem_cons_self) apart
  · have inBack : second ∈ back := (List.mem_cons.1 behind).resolve_left different
    have tail : [first, second].Sublist (first :: back) :=
      List.Sublist.cons_cons first (List.singleton_sublist.2 inBack)
    exact tail.trans (List.sublist_append_right front _)

theorem perm_insert {α : Type} {first second whole : List α} (same : (first ++ second).Perm whole)
    (item : α) : (first ++ item :: second).Perm (whole ++ [item]) :=
  List.perm_middle.trans ((same.cons item).trans (List.perm_append_singleton item whole).symm)

theorem mapM_natural {ε δ α β γ θ : Type} {f : α → Except ε β} {g : γ → Except δ θ} (into : α → γ)
    (cause : ε → δ) (out : β → θ) (natural : ∀ item, g (into item) = ((f item).mapError cause).map out)
    (items : List α) :
    (items.map into).mapM g = ((items.mapM f).mapError cause).map (List.map out) := by
  induction items with
  | nil => rfl
  | cons head tail ih =>
    rw [List.map_cons, List.mapM_cons, List.mapM_cons, natural, ih]
    cases f head with
    | error failure => rfl
    | ok first => cases tail.mapM f <;> rfl

theorem foldlM_natural {ε δ α β γ θ : Type} {f : β → α → Except ε β} {g : θ → γ → Except δ θ}
    (into : α → γ) (cause : ε → δ) (out : β → θ)
    (natural : ∀ state item, g (out state) (into item) = ((f state item).mapError cause).map out)
    (items : List α) (start : β) :
    (items.map into).foldlM g (out start) = ((items.foldlM f start).mapError cause).map out := by
  induction items generalizing start with
  | nil => rfl
  | cons head tail ih =>
    rw [List.map_cons, List.foldlM_cons, List.foldlM_cons, natural]
    cases f start head with
    | error failure => rfl
    | ok next => exact ih next

theorem foldlM_append_of_ok {ε α β : Type} {f : β → α → Except ε β} {first : List α}
    {start middle : β} (run : first.foldlM f start = .ok middle) (second : List α) :
    (first ++ second).foldlM f start = second.foldlM f middle := by
  rw [List.foldlM_append, run]
  rfl

theorem foldlM_cons_of_ok {ε α β : Type} {f : β → α → Except ε β} {item : α} {start next : β}
    (step : f start item = .ok next) (rest : List α) :
    (item :: rest).foldlM f start = rest.foldlM f next := by
  rw [List.foldlM_cons, step]
  rfl

theorem foldlM_eq_error_iff {ε α β : Type} {f : β → α → Except ε β} {items : List α} {start : β}
    {failure : ε} :
    items.foldlM f start = .error failure ↔ ∃ front item back state, items = front ++ item :: back ∧
      front.foldlM f start = .ok state ∧ f state item = .error failure := by
  constructor
  · intro failed
    induction items generalizing start with
    | nil => cases failed
    | cons head tail ih =>
      rw [List.foldlM_cons] at failed
      rcases bind_eq_error.1 failed with fails | ⟨next, step, later⟩
      · exact ⟨[], head, tail, start, rfl, rfl, fails⟩
      · obtain ⟨front, item, back, state, rfl, run, fails⟩ := ih later
        exact ⟨head :: front, item, back, state, rfl, (foldlM_cons_of_ok step front).trans run, fails⟩
  · rintro ⟨front, item, back, state, rfl, run, fails⟩
    rw [foldlM_append_of_ok run, List.foldlM_cons, fails]
    rfl

theorem foldlM_eq_error {ε α β : Type} {f : β → α → Except ε β} {items : List α} {start : β}
    {failure : ε} (failed : items.foldlM f start = .error failure) :
    ∃ item ∈ items, ∃ state, f state item = .error failure := by
  obtain ⟨front, item, back, state, rfl, _, fails⟩ := foldlM_eq_error_iff.1 failed
  exact ⟨item, List.mem_append_right _ List.mem_cons_self, state, fails⟩

theorem foldlM_preserves {ε α β : Type} {f : β → α → Except ε β} {holds : List α → β → Prop}
    (step : ∀ {done item before after}, holds done before → f before item = .ok after →
      holds (done ++ [item]) after)
    {done rest : List α} {start finish : β} (initially : holds done start)
    (run : rest.foldlM f start = .ok finish) : holds (done ++ rest) finish := by
  induction rest generalizing done start with
  | nil =>
    injection run with run
    rw [List.append_nil, ← run]
    exact initially
  | cons item rest ih =>
    rw [List.foldlM_cons] at run
    obtain ⟨next, stepped, run⟩ := bind_eq_ok.1 run
    have reached := ih (step initially stepped) run
    rw [List.append_assoc] at reached
    exact reached

end Reckon
