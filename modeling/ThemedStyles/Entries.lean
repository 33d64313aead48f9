namespace ThemedStyles

/-!
# Entries kept in order

Style books, rule maps, class tables and theme lists are all maps whose order
matters: it decides the order of the written rules.  An entry list is the list
of its pairs, oldest key first.  Putting a key that is already present keeps
its place and exchanges the value; putting a new key appends it; erasing a key
closes the gap and keeps the order of the others.

Main statements: what `get?` sees after `put` and `erase`, what they do to the
list of keys, and that no operation repeats a key.
-/

universe u v w

/-- Pairs of a key and its value, in the order in which the keys came first. -/
abbrev Entries (α : Type u) := List (String × α)

namespace Entries

variable {α : Type u} {β : Type v}

/-- The value of the first pair with this key. -/
def get? : Entries α -> String -> Option α
  | [], _ => none
  | (name, value) :: rest, key => if name = key then some value else get? rest key

/-- The keys, oldest first. -/
def keys (entries : Entries α) : List String := entries.map Prod.fst

/-- The values, in the order of their keys. -/
def values (entries : Entries α) : List α := entries.map Prod.snd

/-- Is there a pair with this key? -/
def has (entries : Entries α) (key : String) : Bool := (get? entries key).isSome

/-- Exchange the value of a present key in its place, or append a new key. -/
def put : Entries α -> String -> α -> Entries α
  | [], key, value => [(key, value)]
  | (name, old) :: rest, key, value =>
      if name = key then (name, value) :: rest else (name, old) :: put rest key value

/-- Remove the pair with this key.  The others keep their order. -/
def erase : Entries α -> String -> Entries α
  | [], _ => []
  | (name, value) :: rest, key => if name = key then rest else (name, value) :: erase rest key

/-- Put every pair of `extra`, in order, so that later values win. -/
def putAll (base extra : Entries α) : Entries α :=
  extra.foldl (fun entries pair => put entries pair.1 pair.2) base

/-- Entries from pairs in which a key may come again.  A repeated key keeps
its first place and its last value. -/
def ofPairs (pairs : List (String × α)) : Entries α := putAll [] pairs

/-- Apply `change` to the value of `key`, taking `fallback` for a missing one. -/
def adjust (entries : Entries α) (key : String) (fallback : α) (change : α -> α) : Entries α :=
  put entries key (change ((get? entries key).getD fallback))

/-- Apply `change` to every value in turn, oldest key first, with a state that it
hands on from one value to the next. -/
def mapValuesFrom {σ : Type w} (change : σ -> String -> α -> β × σ) :
    (state : σ) -> Entries α -> Entries β × σ
  | state, [] => ([], state)
  | state, (key, value) :: rest =>
      let (changed, next) := change state key value
      let (others, last) := mapValuesFrom change next rest
      ((key, changed) :: others, last)

@[simp] theorem keys_nil : keys ([] : Entries α) = [] := rfl

@[simp] theorem keys_cons (pair : String × α) (rest : Entries α) :
    keys (pair :: rest) = pair.1 :: keys rest := rfl

@[simp] theorem keys_append (first rest : Entries α) :
    keys (first ++ rest) = keys first ++ keys rest :=
  List.map_append

@[simp] theorem keys_reverse (entries : Entries α) :
    keys entries.reverse = (keys entries).reverse :=
  List.map_reverse

/-! ## What a look-up sees -/

@[simp] theorem get?_nil (key : String) : get? ([] : Entries α) key = none := rfl

@[simp] theorem get?_put_self (entries : Entries α) (key : String) (value : α) :
    get? (put entries key value) key = some value := by
  induction entries with
  | nil => simp [put, get?]
  | cons pair rest inductionHypothesis =>
      by_cases same : pair.1 = key <;> simp [put, get?, same, inductionHypothesis]

theorem get?_put_of_ne (entries : Entries α) (key other : String) (value : α)
    (different : other ≠ key) : get? (put entries key value) other = get? entries other := by
  induction entries with
  | nil => simp [put, get?, Ne.symm different]
  | cons pair rest inductionHypothesis =>
      by_cases same : pair.1 = key
      · have away : pair.1 ≠ other := fun equal => different (equal.symm.trans same)
        simp [put, get?, same, Ne.symm different]
      · by_cases found : pair.1 = other <;>
          simp [put, get?, same, found, different, inductionHypothesis]

/-- Putting changes what is seen of exactly one key. -/
@[simp] theorem get?_put (entries : Entries α) (key other : String) (value : α) :
    get? (put entries key value) other =
      if other = key then some value else get? entries other := by
  by_cases same : other = key
  · rw [if_pos same, same, get?_put_self]
  · rw [if_neg same, get?_put_of_ne entries key other value same]

/-- Putting what is there already changes nothing. -/
theorem put_of_get?_eq_some {entries : Entries α} {key : String} {value : α}
    (found : get? entries key = some value) : put entries key value = entries := by
  induction entries with
  | nil => cases found
  | cons pair rest inductionHypothesis =>
      by_cases same : pair.1 = key
      · rw [get?, if_pos same, Option.some.injEq] at found
        rw [put, if_pos same, ← found]
      · rw [get?, if_neg same] at found
        rw [put, if_neg same, inductionHypothesis found]

theorem get?_erase_of_ne (entries : Entries α) (key other : String) (different : other ≠ key) :
    get? (erase entries key) other = get? entries other := by
  induction entries with
  | nil => rfl
  | cons pair rest inductionHypothesis =>
      by_cases same : pair.1 = key
      · simp [erase, get?, same, Ne.symm different]
      · simp [erase, get?, same, inductionHypothesis]

/-- What stands first is seen first. -/
@[simp] theorem get?_append (first rest : Entries α) (key : String) :
    get? (first ++ rest) key = (get? first key).or (get? rest key) := by
  induction first with
  | nil => rfl
  | cons pair first inductionHypothesis =>
      by_cases same : pair.1 = key <;> simp [get?, same, inductionHypothesis]

theorem mem_of_get?_eq_some {entries : Entries α} {key : String} {value : α}
    (found : get? entries key = some value) : (key, value) ∈ entries := by
  induction entries with
  | nil => cases found
  | cons pair rest inductionHypothesis =>
      by_cases same : pair.1 = key
      · rw [get?, if_pos same, Option.some.injEq] at found
        exact List.mem_cons.mpr (Or.inl (Prod.ext same.symm found.symm))
      · rw [get?, if_neg same] at found
        exact List.mem_cons_of_mem pair (inductionHypothesis found)

@[simp] theorem get?_isSome_iff (entries : Entries α) (key : String) :
    (get? entries key).isSome = true ↔ key ∈ keys entries := by
  induction entries with
  | nil => simp
  | cons pair rest inductionHypothesis =>
      by_cases same : pair.1 = key
      · simp [get?, same]
      · simp [get?, same, Ne.symm same, inductionHypothesis]

@[simp] theorem get?_eq_none_iff (entries : Entries α) (key : String) :
    get? entries key = none ↔ key ∉ keys entries := by
  rw [← get?_isSome_iff]
  cases get? entries key <;> simp

@[simp] theorem has_iff (entries : Entries α) (key : String) :
    has entries key = true ↔ key ∈ keys entries :=
  get?_isSome_iff entries key

@[simp] theorem has_eq_false_iff (entries : Entries α) (key : String) :
    has entries key = false ↔ key ∉ keys entries := by
  rw [← Bool.not_eq_true, has_iff]

/-- An erased key is gone, for no other pair has it. -/
theorem get?_erase_self (entries : Entries α) (key : String) (distinct : (keys entries).Nodup) :
    get? (erase entries key) key = none := by
  induction entries with
  | nil => rfl
  | cons pair rest inductionHypothesis =>
      have parts : pair.1 ∉ keys rest ∧ (keys rest).Nodup := List.nodup_cons.mp distinct
      by_cases same : pair.1 = key
      · simp only [erase, if_pos same]
        exact (get?_eq_none_iff rest key).mpr (same ▸ parts.1)
      · simp only [erase, get?, if_neg same]
        exact inductionHypothesis parts.2

/-- Erasing changes what is seen of exactly one key. -/
theorem get?_erase (entries : Entries α) (key other : String) (distinct : (keys entries).Nodup) :
    get? (erase entries key) other = if other = key then none else get? entries other := by
  by_cases same : other = key
  · rw [if_pos same, same, get?_erase_self entries key distinct]
  · rw [if_neg same, get?_erase_of_ne entries key other same]

theorem get?_filter_eq_none {entries : Entries α} {key : String} (missing : key ∉ keys entries)
    (kept : String × α -> Bool) : get? (entries.filter kept) key = none := by
  rw [get?_eq_none_iff]
  exact fun member => missing ((List.filter_sublist.map Prod.fst).subset member)

/-- Where no key comes again, leaving pairs out by their values leaves out what is seen. -/
theorem get?_filter {entries : Entries α} (distinct : (keys entries).Nodup) (test : α -> Bool)
    (key : String) :
    get? (entries.filter fun pair => test pair.2) key = (get? entries key).filter test := by
  induction entries with
  | nil => rfl
  | cons pair rest inductionHypothesis =>
      have parts : pair.1 ∉ keys rest ∧ (keys rest).Nodup := List.nodup_cons.mp distinct
      by_cases same : pair.1 = key
      · have later : get? rest key = none := (get?_eq_none_iff rest key).mpr (same ▸ parts.1)
        cases kept : test pair.2 <;>
          simp [get?, same, kept, later, inductionHypothesis parts.2, Option.filter]
      · cases kept : test pair.2 <;> simp [get?, same, kept, inductionHypothesis parts.2]

/-- Without repeated keys, every value is seen under its key. -/
theorem mem_values_iff (entries : Entries α) (value : α) (distinct : (keys entries).Nodup) :
    value ∈ values entries ↔ ∃ key, get? entries key = some value := by
  induction entries with
  | nil => simp [values]
  | cons pair rest inductionHypothesis =>
      have parts : pair.1 ∉ keys rest ∧ (keys rest).Nodup := List.nodup_cons.mp distinct
      have later := inductionHypothesis parts.2
      simp only [values, List.map_cons, List.mem_cons] at later ⊢
      constructor
      · rintro (first | member)
        · exact ⟨pair.1, by simp [get?, first]⟩
        · rcases later.mp member with ⟨key, found⟩
          have present : key ∈ keys rest := by
            rw [← get?_isSome_iff, found]
            rfl
          have away : pair.1 ≠ key := fun equal => parts.1 (equal ▸ present)
          exact ⟨key, by rw [get?, if_neg away, found]⟩
      · rintro ⟨key, found⟩
        by_cases same : pair.1 = key
        · rw [get?, if_pos same] at found
          exact Or.inl (Option.some.inj found).symm
        · rw [get?, if_neg same] at found
          exact Or.inr (later.mpr ⟨key, found⟩)

/-! ## What happens to the keys -/

theorem keys_put_of_mem (entries : Entries α) (key : String) (value : α)
    (member : key ∈ keys entries) : keys (put entries key value) = keys entries := by
  induction entries with
  | nil => cases member
  | cons pair rest inductionHypothesis =>
      by_cases same : pair.1 = key
      · simp [put, same]
      · have later : key ∈ keys rest := (List.mem_cons.mp member).resolve_left (Ne.symm same)
        simp [put, same, inductionHypothesis later]

theorem keys_put_of_not_mem (entries : Entries α) (key : String) (value : α)
    (missing : key ∉ keys entries) : keys (put entries key value) = keys entries ++ [key] := by
  induction entries with
  | nil => simp [put]
  | cons pair rest inductionHypothesis =>
      rw [keys_cons, List.mem_cons, not_or] at missing
      simp [put, Ne.symm missing.1, inductionHypothesis missing.2]

/-- A new key is appended with its value. -/
theorem put_of_not_mem (entries : Entries α) (key : String) (value : α)
    (missing : key ∉ keys entries) : put entries key value = entries ++ [(key, value)] := by
  induction entries with
  | nil => rfl
  | cons pair rest inductionHypothesis =>
      rw [keys_cons, List.mem_cons, not_or] at missing
      rw [put, if_neg (Ne.symm missing.1), inductionHypothesis missing.2, List.cons_append]

theorem erase_of_not_mem (entries : Entries α) (key : String) (missing : key ∉ keys entries) :
    erase entries key = entries := by
  induction entries with
  | nil => rfl
  | cons pair rest inductionHypothesis =>
      rw [keys_cons, List.mem_cons, not_or] at missing
      rw [erase, if_neg (Ne.symm missing.1), inductionHypothesis missing.2]

@[simp] theorem mem_keys_put (entries : Entries α) (key other : String) (value : α) :
    other ∈ keys (put entries key value) ↔ other = key ∨ other ∈ keys entries := by
  simp only [← get?_isSome_iff, get?_put]
  by_cases same : other = key <;> simp [same]

/-- After a put, a pair is the one that was put or an old one. -/
theorem mem_of_mem_put {entries : Entries α} {key : String} {value : α} {pair : String × α}
    (member : pair ∈ put entries key value) : pair = (key, value) ∨ pair ∈ entries := by
  induction entries with
  | nil => exact Or.inl (List.mem_singleton.mp member)
  | cons first rest inductionHypothesis =>
      by_cases same : first.1 = key
      · rw [put, if_pos same, same] at member
        exact (List.mem_cons.mp member).imp id (List.mem_cons_of_mem first)
      · rw [put, if_neg same] at member
        rcases List.mem_cons.mp member with old | later
        · exact Or.inr (List.mem_cons.mpr (Or.inl old))
        · exact (inductionHypothesis later).imp id (List.mem_cons_of_mem first)

@[simp] theorem erase_sublist (entries : Entries α) (key : String) :
    (erase entries key).Sublist entries := by
  induction entries with
  | nil => exact List.Sublist.refl _
  | cons pair rest inductionHypothesis =>
      by_cases same : pair.1 = key
      · simp [erase, same]
      · simp only [erase, if_neg same]
        exact inductionHypothesis.cons_cons pair

@[simp] theorem keys_erase_sublist (entries : Entries α) (key : String) :
    (keys (erase entries key)).Sublist (keys entries) :=
  (erase_sublist entries key).map Prod.fst

theorem nodup_keys_erase (entries : Entries α) (key : String)
    (distinct : (keys entries).Nodup) : (keys (erase entries key)).Nodup :=
  distinct.sublist (keys_erase_sublist entries key)

theorem nodup_keys_put (entries : Entries α) (key : String) (value : α)
    (distinct : (keys entries).Nodup) : (keys (put entries key value)).Nodup := by
  by_cases member : key ∈ keys entries
  · rw [keys_put_of_mem entries key value member]
    exact distinct
  · rw [keys_put_of_not_mem entries key value member, List.nodup_append]
    refine ⟨distinct, List.pairwise_singleton _ _, ?_⟩
    intro first firstMember second secondMember
    rw [List.mem_singleton] at secondMember
    subst second
    intro equal
    exact member (equal ▸ firstMember)

theorem nodup_keys_putAll (base extra : Entries α) (distinct : (keys base).Nodup) :
    (keys (putAll base extra)).Nodup := by
  unfold putAll
  induction extra generalizing base with
  | nil => exact distinct
  | cons pair rest inductionHypothesis =>
      exact inductionHypothesis _ (nodup_keys_put base pair.1 pair.2 distinct)

@[simp] theorem nodup_keys_ofPairs (pairs : List (String × α)) : (keys (ofPairs pairs)).Nodup :=
  nodup_keys_putAll [] pairs List.nodup_nil

/-- Without repeated keys, entries are what is seen of their keys. -/
theorem eq_map_keys (entries : Entries α) (fallback : α) (distinct : (keys entries).Nodup) :
    entries = (keys entries).map fun key => (key, (get? entries key).getD fallback) := by
  induction entries with
  | nil => rfl
  | cons pair rest inductionHypothesis =>
      have parts : pair.1 ∉ keys rest ∧ (keys rest).Nodup := List.nodup_cons.mp distinct
      have first : get? (pair :: rest) pair.1 = some pair.2 := if_pos rfl
      have later : forall key, key ∈ keys rest -> get? (pair :: rest) key = get? rest key := by
        intro key member
        have away : pair.1 ≠ key := fun same => parts.1 (same ▸ member)
        exact if_neg away
      calc pair :: rest
          = pair :: (keys rest).map fun key => (key, (get? rest key).getD fallback) :=
            congrArg (pair :: ·) (inductionHypothesis parts.2)
        _ = pair :: (keys rest).map fun key => (key, (get? (pair :: rest) key).getD fallback) :=
            congrArg (pair :: ·) (List.map_congr_left fun key member => by rw [later key member])
        _ = (keys (pair :: rest)).map fun key =>
            (key, (get? (pair :: rest) key).getD fallback) := by
          simp [first]

/-! ## Putting and changing again -/

/-- The later of two values put under one key is the one that stays. -/
@[simp] theorem put_put_self (entries : Entries α) (key : String) (first second : α) :
    put (put entries key first) key second = put entries key second := by
  induction entries with
  | nil => simp [put]
  | cons pair rest inductionHypothesis =>
      by_cases same : pair.1 = key <;> simp [put, same, inductionHypothesis]

/-- A present key keeps its place, so putting it may be exchanged with putting
another key. -/
theorem put_put_comm (entries : Entries α) {key other : String} (different : key ≠ other)
    (member : key ∈ keys entries) (value added : α) :
    put (put entries key value) other added = put (put entries other added) key value := by
  induction entries with
  | nil => exact absurd member List.not_mem_nil
  | cons pair rest inductionHypothesis =>
      by_cases same : pair.1 = key
      · simp [put, same, different]
      · have later : key ∈ keys rest := (List.mem_cons.mp member).resolve_left (Ne.symm same)
        by_cases found : pair.1 = other
        · simp [put, found, Ne.symm different]
        · simp [put, same, found, inductionHypothesis later]

@[simp] theorem get?_adjust (entries : Entries α) (key other : String)
    (fallback : α) (change : α -> α) :
    get? (adjust entries key fallback change) other =
      if other = key then some (change ((get? entries key).getD fallback))
      else get? entries other :=
  get?_put entries key other _

@[simp] theorem mem_keys_adjust (entries : Entries α) (key other : String) (fallback : α)
    (change : α -> α) :
    other ∈ keys (adjust entries key fallback change) ↔ other = key ∨ other ∈ keys entries :=
  mem_keys_put entries key other _

/-- Changing a value to itself changes nothing. -/
theorem adjust_eq_self {entries : Entries α} {key : String} {change : α -> α} {fallback : α}
    (member : key ∈ keys entries)
    (unchanged : change ((get? entries key).getD fallback) = (get? entries key).getD fallback) :
    adjust entries key fallback change = entries := by
  cases found : get? entries key with
  | none => exact absurd member ((get?_eq_none_iff entries key).mp found)
  | some value =>
      rw [found, Option.getD_some] at unchanged
      rw [adjust, found, Option.getD_some, unchanged, put_of_get?_eq_some found]

@[simp] theorem adjust_adjust_self (entries : Entries α) (key : String) (fallback : α)
    (first second : α -> α) :
    adjust (adjust entries key fallback first) key fallback second =
      adjust entries key fallback (second ∘ first) := by
  rw [adjust, get?_adjust, if_pos rfl, Option.getD_some, adjust, put_put_self]
  rfl

/-- The changes of a present key and of any other commute, and so do two changes of
one key that commute on its value. -/
theorem adjust_comm {entries : Entries α} {key other : String} {fallback : α}
    {change changed : α -> α} (member : key ∈ keys entries)
    (commute : key = other -> changed (change ((get? entries key).getD fallback)) =
      change (changed ((get? entries key).getD fallback))) :
    adjust (adjust entries key fallback change) other fallback changed =
      adjust (adjust entries other fallback changed) key fallback change := by
  by_cases same : key = other
  · have agree := commute same
    subst same
    rw [adjust_adjust_self, adjust_adjust_self]
    exact congrArg (put entries key) agree
  · rw [adjust, get?_adjust, if_neg (Ne.symm same), adjust, put_put_comm entries same member,
      adjust, get?_adjust, if_neg same]
    rfl

/-! ## Putting many pairs -/

/-- Of many pairs put in order, the last one with a key decides. -/
@[simp] theorem get?_putAll (base extra : Entries α) (key : String) :
    get? (putAll base extra) key = (get? extra.reverse key).or (get? base key) := by
  induction extra generalizing base with
  | nil => rfl
  | cons pair rest inductionHypothesis =>
      have step : putAll base (pair :: rest) = putAll (put base pair.1 pair.2) rest := rfl
      rw [step, inductionHypothesis, List.reverse_cons, get?_append, Option.or_assoc, get?_put]
      by_cases same : key = pair.1
      · simp [get?, same]
      · simp [get?, same, Ne.symm same]

/-- New keys are appended in the order in which they come first. -/
theorem keys_putAll (base extra : Entries α) :
    keys (putAll base extra) =
      keys base ++ ((keys extra).filter fun key => !(keys base).contains key).eraseDups := by
  induction extra generalizing base with
  | nil => exact (List.append_nil _).symm
  | cons pair rest inductionHypothesis =>
      have step : putAll base (pair :: rest) = putAll (put base pair.1 pair.2) rest := rfl
      rw [step, inductionHypothesis, keys_cons]
      by_cases member : pair.1 ∈ keys base
      · rw [keys_put_of_mem base pair.1 pair.2 member, List.filter_cons_of_neg (by simp [member])]
      · rw [keys_put_of_not_mem base pair.1 pair.2 member,
          List.filter_cons_of_pos (by simp [member]), List.eraseDups_cons, List.filter_filter,
          List.append_assoc, List.singleton_append]
        have again : (fun key => !(keys base ++ [pair.1]).contains key) =
            fun key => !key == pair.1 && !(keys base).contains key := by
          funext key
          rw [List.contains_append, List.contains_cons, List.contains_nil, Bool.or_false,
            Bool.not_or, Bool.and_comm]
        rw [again]

/-- Entries made from pairs have the keys of the pairs, each where it comes first. -/
theorem keys_ofPairs (pairs : List (String × α)) :
    keys (ofPairs pairs) = (keys pairs).eraseDups := by
  have all : (keys pairs).filter (fun _ => true) = keys pairs :=
    List.filter_eq_self.mpr fun _ _ => rfl
  exact (keys_putAll [] pairs).trans (congrArg List.eraseDups all)

@[simp] theorem get?_ofPairs (pairs : List (String × α)) (key : String) :
    get? (ofPairs pairs) key = get? pairs.reverse key :=
  (get?_putAll [] pairs key).trans (Option.or_none)

/-- The last pair with a key is the one that is seen. -/
theorem get?_ofPairs_of_last {before after : List (String × α)} {key : String} {value : α}
    (last : key ∉ keys after) :
    get? (ofPairs (before ++ (key, value) :: after)) key = some value := by
  have away : get? after.reverse key = none := by simpa using last
  rw [get?_ofPairs, List.reverse_append, List.reverse_cons, List.append_assoc, get?_append, away]
  exact if_pos rfl

/-! ## Putting in parts -/

@[simp] theorem putAll_append (base first rest : Entries α) :
    putAll base (first ++ rest) = putAll (putAll base first) rest :=
  List.foldl_append

/-- Parts that are put one after the other are put as one. -/
theorem foldl_putAll (base : Entries α) (part : β -> Entries α) (sources : List β) :
    sources.foldl (fun entries source => putAll entries (part source)) base =
      putAll base (sources.flatMap part) := by
  induction sources generalizing base with
  | nil => rfl
  | cons source rest inductionHypothesis =>
      rw [List.foldl_cons, inductionHypothesis, List.flatMap_cons, putAll_append]

/-- Parts may be exchanged for others that come to the same wherever they are put. -/
theorem putAll_flatMap_congr {part other : β -> Entries α} {sources : List β}
    (agree : forall source, source ∈ sources -> forall base,
      putAll base (part source) = putAll base (other source)) (base : Entries α) :
    putAll base (sources.flatMap part) = putAll base (sources.flatMap other) := by
  induction sources generalizing base with
  | nil => rfl
  | cons source rest inductionHypothesis =>
      rw [List.flatMap_cons, List.flatMap_cons, putAll_append, putAll_append,
        agree source List.mem_cons_self]
      apply inductionHypothesis
      exact fun later member => agree later (List.mem_cons_of_mem source member)

/-- A present key that does not come again may as well be put at the end. -/
theorem putAll_put_of_not_mem {base extra : Entries α} {key : String} (value : α)
    (member : key ∈ keys base) (away : key ∉ keys extra) :
    putAll (put base key value) extra = put (putAll base extra) key value := by
  induction extra generalizing base with
  | nil => rfl
  | cons pair rest inductionHypothesis =>
      have parts : key ≠ pair.1 ∧ key ∉ keys rest := by simpa using away
      have later : key ∈ keys (put base pair.1 pair.2) := by simp [member]
      calc putAll (put (put base key value) pair.1 pair.2) rest
          = putAll (put (put base pair.1 pair.2) key value) rest := by
            rw [put_put_comm base parts.1 member]
        _ = put (putAll (put base pair.1 pair.2) rest) key value :=
            inductionHypothesis later parts.2

theorem putAll_put (base : Entries α) {inner : Entries α} (distinct : (keys inner).Nodup)
    (key : String) (value : α) :
    putAll base (put inner key value) = put (putAll base inner) key value := by
  induction inner generalizing base with
  | nil => rfl
  | cons pair rest inductionHypothesis =>
      have parts : pair.1 ∉ keys rest ∧ (keys rest).Nodup := List.nodup_cons.mp distinct
      by_cases same : pair.1 = key
      · subst same
        have present : pair.1 ∈ keys (put base pair.1 pair.2) := by simp
        calc putAll base (put (pair :: rest) pair.1 value)
            = putAll (put base pair.1 value) rest := by rw [put, if_pos rfl]; rfl
          _ = putAll (put (put base pair.1 pair.2) pair.1 value) rest := by rw [put_put_self]
          _ = put (putAll (put base pair.1 pair.2) rest) pair.1 value :=
              putAll_put_of_not_mem value present parts.1
      · rw [put, if_neg same]
        exact inductionHypothesis (put base pair.1 pair.2) parts.2

/-- It does not matter which of two parts is put first into the other. -/
theorem putAll_putAll (base : Entries α) {inner : Entries α} (distinct : (keys inner).Nodup)
    (extra : Entries α) : putAll base (putAll inner extra) = putAll (putAll base inner) extra := by
  induction extra generalizing inner with
  | nil => rfl
  | cons pair rest inductionHypothesis =>
      calc putAll base (putAll (put inner pair.1 pair.2) rest)
          = putAll (putAll base (put inner pair.1 pair.2)) rest :=
            inductionHypothesis (nodup_keys_put inner pair.1 pair.2 distinct)
        _ = putAll (put (putAll base inner) pair.1 pair.2) rest := by rw [putAll_put base distinct]

@[simp] theorem putAll_ofPairs (base : Entries α) (pairs : List (String × α)) :
    putAll base (ofPairs pairs) = putAll base pairs := by
  have distinct : (keys ([] : Entries α)).Nodup := List.nodup_nil
  exact putAll_putAll base distinct pairs

/-- New keys that differ from each other are appended as they are. -/
theorem putAll_eq_append {base extra : Entries α} (distinct : (keys (base ++ extra)).Nodup) :
    putAll base extra = base ++ extra := by
  induction extra generalizing base with
  | nil => exact (List.append_nil base).symm
  | cons pair rest inductionHypothesis =>
      have shift : base ++ pair :: rest = (base ++ [pair]) ++ rest :=
        List.append_cons base pair rest
      have missing : pair.1 ∉ keys base := by
        intro member
        rw [keys_append, List.nodup_append] at distinct
        exact distinct.2.2 pair.1 member pair.1 List.mem_cons_self rfl
      have step : putAll base (pair :: rest) = putAll (put base pair.1 pair.2) rest := rfl
      rw [step, put_of_not_mem base pair.1 pair.2 missing, shift]
      apply inductionHypothesis
      rw [← shift]
      exact distinct

/-- Pairs that repeat no key are entries already. -/
theorem ofPairs_of_nodup {pairs : List (String × α)} (distinct : (keys pairs).Nodup) :
    ofPairs pairs = pairs :=
  putAll_eq_append distinct

theorem get?_of_mem {entries : Entries α} {key : String} {value : α}
    (distinct : (keys entries).Nodup) (member : (key, value) ∈ entries) :
    get? entries key = some value := by
  induction entries with
  | nil => cases member
  | cons pair rest inductionHypothesis =>
      have parts : pair.1 ∉ keys rest ∧ (keys rest).Nodup := List.nodup_cons.mp distinct
      rcases List.mem_cons.mp member with rfl | later
      · exact if_pos rfl
      · have away : pair.1 ≠ key := fun same =>
          parts.1 (same ▸ List.mem_map_of_mem (f := Prod.fst) later)
        rw [get?, if_neg away, inductionHypothesis parts.2 later]

theorem mem_of_mem_ofPairs {pairs : List (String × α)} {pair : String × α}
    (member : pair ∈ ofPairs pairs) : pair ∈ pairs := by
  have found : get? (ofPairs pairs) pair.1 = some pair.2 :=
    get?_of_mem (nodup_keys_ofPairs pairs) member
  rw [get?_ofPairs] at found
  exact List.mem_reverse.mp (mem_of_get?_eq_some found)

@[simp] theorem mem_keys_putAll (base extra : Entries α) (key : String) :
    key ∈ keys (putAll base extra) ↔ key ∈ keys base ∨ key ∈ keys extra := by
  rw [keys_putAll, List.mem_append, List.mem_eraseDups, List.mem_filter]
  by_cases member : key ∈ keys base <;> simp [member]

theorem get?_putAll_of_not_mem (base : Entries α) {extra : Entries α} {key : String}
    (away : key ∉ keys extra) : get? (putAll base extra) key = get? base key := by
  have missing : get? extra.reverse key = none := by simpa using away
  rw [get?_putAll, missing, Option.none_or]

theorem get?_putAll_of_get? (base : Entries α) {extra : Entries α} {key : String} {value : α}
    (distinct : (keys extra).Nodup) (found : get? extra key = some value) :
    get? (putAll base extra) key = some value := by
  rw [← ofPairs_of_nodup distinct, get?_ofPairs] at found
  rw [get?_putAll, found, Option.some_or]

/-- A key has a last pair, whose value no later one replaces. -/
theorem exists_last_of_mem_keys {pairs : List (String × α)} {key : String}
    (member : key ∈ keys pairs) :
    ∃ before value after, pairs = before ++ (key, value) :: after ∧ key ∉ keys after := by
  induction pairs with
  | nil => exact absurd member List.not_mem_nil
  | cons pair rest inductionHypothesis =>
      by_cases again : key ∈ keys rest
      · rcases inductionHypothesis again with ⟨before, value, after, rfl, last⟩
        exact ⟨pair :: before, value, after, rfl, last⟩
      · have same : key = pair.1 := (List.mem_cons.mp member).resolve_right again
        exact ⟨[], pair.2, rest, by rw [same]; rfl, again⟩

section KeptKeys

variable {change : String × α -> String × β} (keeps : forall pair, (change pair).1 = pair.1)

include keeps

theorem map_put (entries : Entries α) (key : String) (value : α) :
    (put entries key value).map change = put (entries.map change) key (change (key, value)).2 := by
  induction entries with
  | nil => exact congrArg (fun name => [(name, (change (key, value)).2)]) (keeps (key, value))
  | cons pair rest inductionHypothesis =>
      by_cases same : pair.1 = key
      · subst same
        rw [put, if_pos rfl, List.map_cons, List.map_cons, put, if_pos (keeps pair), keeps pair]
        exact congrArg (· :: rest.map change) (Prod.ext (keeps (pair.1, value)) rfl)
      · have away : (change pair).1 ≠ key := fun found => same ((keeps pair).symm.trans found)
        rw [put, if_neg same, List.map_cons, List.map_cons, put, if_neg away, inductionHypothesis]

/-- Values may be changed before repeated keys are put together. -/
theorem map_ofPairs (pairs : List (String × α)) :
    (ofPairs pairs).map change = ofPairs (pairs.map change) := by
  have general : forall base : Entries α,
      (putAll base pairs).map change = putAll (base.map change) (pairs.map change) := by
    induction pairs with
    | nil => exact fun _ => rfl
    | cons pair rest inductionHypothesis =>
        intro base
        calc (putAll (put base pair.1 pair.2) rest).map change
            = putAll ((put base pair.1 pair.2).map change) (rest.map change) :=
              inductionHypothesis _
          _ = putAll (put (base.map change) (change pair).1 (change pair).2)
                (rest.map change) := by rw [map_put keeps, keeps pair]
  exact general []

end KeptKeys

/-! ## Changing every value -/

section Mapping

variable {σ : Type w} (change : σ -> String -> α -> β × σ)

theorem mapValuesFrom_append (state : σ) (first rest : Entries α) :
    mapValuesFrom change state (first ++ rest) =
      ((mapValuesFrom change state first).1 ++
          (mapValuesFrom change (mapValuesFrom change state first).2 rest).1,
        (mapValuesFrom change (mapValuesFrom change state first).2 rest).2) := by
  induction first generalizing state with
  | nil => rfl
  | cons pair first inductionHypothesis =>
      simp only [List.cons_append, mapValuesFrom, inductionHypothesis]

@[simp] theorem keys_mapValuesFrom (state : σ) (entries : Entries α) :
    keys (mapValuesFrom change state entries).1 = keys entries := by
  induction entries generalizing state with
  | nil => rfl
  | cons pair rest inductionHypothesis =>
      exact congrArg (pair.1 :: ·) (inductionHypothesis _)

@[simp] theorem mapValuesFrom_snd (state : σ) (entries : Entries α) :
    (mapValuesFrom change state entries).2 =
      entries.foldl (fun state pair => (change state pair.1 pair.2).2) state := by
  induction entries generalizing state with
  | nil => rfl
  | cons pair rest inductionHypothesis => exact inductionHypothesis _

/-- A value is changed with the state that the values before it have left. -/
theorem get?_mapValuesFrom (state : σ) (before after : Entries α) (key : String) (value : α)
    (first : key ∉ keys before) :
    get? (mapValuesFrom change state (before ++ (key, value) :: after)).1 key =
      some (change (mapValuesFrom change state before).2 key value).1 := by
  have away : get? (mapValuesFrom change state before).1 key = none := by simpa using first
  rw [mapValuesFrom_append, get?_append, away]
  exact if_pos rfl

end Mapping

end Entries
end ThemedStyles
