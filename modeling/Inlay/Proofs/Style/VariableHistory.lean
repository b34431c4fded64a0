import Inlay.Proofs.Style.Variables

namespace Inlay.Style.Variables

inductive Operation where
  | set (name value : Text)
  | update (name : Text) (change : Text → Text)

namespace Operation

def target : Operation → Text
  | set name _ => bareName name
  | update name _ => bareName name

def stored (current : Text) : Operation → Text
  | set _ value => value
  | update _ change => change current

def apply (store : Variables) : Operation → Variables
  | set name value => store.set name value
  | update name change => store.update name change

end Operation

def after (store : Variables) (operations : List Operation) : Variables :=
  operations.foldl Operation.apply store

/-- The value last stored under a bare name by operations of which the latest comes first. An update
reads the value before it without the blanks around it, and nothing as the empty text. -/
def lastStored? (bare : Text) : List Operation → Option Text
  | [] => none
  | operation :: earlier =>
      if operation.target = bare then
        some (operation.stored (((lastStored? bare earlier).map Text.trim).getD []))
      else
        lastStored? bare earlier

theorem lastStored?_filter (bare : Text) (latest : List Operation) :
    lastStored? bare (latest.filter fun operation => operation.target = bare) =
      lastStored? bare latest := by
  induction latest with
  | nil => rfl
  | cons operation earlier ih =>
      by_cases htarget : operation.target = bare
      · rw [List.filter_cons_of_pos (by simpa using htarget), lastStored?, lastStored?, ih]
      · rw [List.filter_cons_of_neg (by simpa using htarget), lastStored?, if_neg htarget, ih]

theorem isSome_lastStored?_iff {bare : Text} {latest : List Operation} :
    (lastStored? bare latest).isSome = true ↔
      ∃ operation ∈ latest, operation.target = bare := by
  induction latest with
  | nil => simp [lastStored?]
  | cons operation earlier ih =>
      rw [lastStored?]
      split
      · rename_i htarget
        simp [htarget]
      · rename_i htarget
        simp [htarget, ih]

theorem lastStored?_swap {first second : Operation} (h : first.target ≠ second.target)
    (bare : Text) (earlier later : List Operation) :
    lastStored? bare (earlier ++ first :: second :: later) =
      lastStored? bare (earlier ++ second :: first :: later) := by
  have hfilter : (first :: second :: later).filter (fun operation => operation.target = bare) =
      (second :: first :: later).filter (fun operation => operation.target = bare) := by
    by_cases hfirst : first.target = bare
    · have hsecond : second.target ≠ bare := fun hbare => h (hfirst.trans hbare.symm)
      simp [hfirst, hsecond]
    · simp [List.filter_cons, hfirst]
  rw [← lastStored?_filter bare (earlier ++ first :: second :: later), List.filter_append, hfilter,
    ← List.filter_append, lastStored?_filter]

theorem Operation.values_apply (operation : Operation) (store : Variables) :
    (operation.apply store).values =
      store.values.insert operation.target
        (operation.stored ((store.values[operation.target]?.map Text.trim).getD [])) := by
  cases operation with
  | set name value => rfl
  | update name change => rfl

theorem Operation.getElem?_apply (operation : Operation) (store : Variables) (bare : Text) :
    (operation.apply store).values[bare]? =
      if operation.target = bare then
        some (operation.stored ((store.values[bare]?.map Text.trim).getD []))
      else
        store.values[bare]? := by
  rw [values_apply]
  by_cases htarget : operation.target = bare
  · subst htarget
    rw [if_pos rfl, Std.TreeMap.getElem?_insert_self]
  · rw [if_neg htarget, Std.TreeMap.getElem?_insert, if_neg (by simpa using htarget)]

theorem getElem?_after (latest : List Operation) (bare : Text) :
    (empty.after latest.reverse).values[bare]? = lastStored? bare latest := by
  induction latest with
  | nil => rfl
  | cons operation earlier ih =>
      rw [List.reverse_cons, after, List.foldl_append, List.foldl_cons, List.foldl_nil, ← after,
        Operation.getElem?_apply, ih, lastStored?]

theorem isEmpty_after (store : Variables) (operations : List Operation) :
    (store.after operations).isEmpty = (store.isEmpty && operations.isEmpty) := by
  induction operations generalizing store with
  | nil => simp [after]
  | cons operation later ih =>
      have hfilled : (operation.apply store).isEmpty = false := by
        rw [isEmpty, Operation.values_apply, Std.TreeMap.isEmpty_insert]
      rw [after, List.foldl_cons, ← after, ih, hfilled]
      simp

theorem toCss_eq_nil_iff (store : Variables) : store.toCss = [] ↔ store.isEmpty = true := by
  rw [toCss]
  split
  · rename_i hempty
    simp [hempty]
  · rename_i hempty
    simp [hempty]

/-- Stores with the same values are written and read alike. -/
theorem toCss_and_get?_congr {first second : Variables}
    (h : ∀ bare : Text, first.values[bare]? = second.values[bare]?) :
    first.toCss = second.toCss ∧ ∀ name, first.get? name = second.get? name := by
  have hequiv : first.values.Equiv second.values :=
    Std.TreeMap.Equiv.of_forall_constGet?_eq h
  constructor
  · rw [toCss, toCss, isEmpty, isEmpty, hequiv.isEmpty_eq, hequiv.toList_eq]
  · intro name
    rw [get?, get?, h]

/-- What a store shows after some operations. Nothing is written only if nothing has been stored;
otherwise the rule for the root element has each bare name that has been stored once, in the order
of the code points, with the value last stored under it. Reading a name gives that value as well, in
both cases without the blanks around it. -/
structure ShowsLastStored (operations : List Operation) (store : Variables) : Prop where
  toCss_eq_nil_iff : store.toCss = [] ↔ operations = []
  rootRule : operations ≠ [] → ∃ entries : List (Text × Text),
    entries.Pairwise (fun first second => first.1 < second.1) ∧
    (∀ bare, bare ∈ entries.map Prod.fst ↔ ∃ operation ∈ operations, operation.target = bare) ∧
    (∀ entry ∈ entries, lastStored? entry.1 operations.reverse = some entry.2) ∧
    store.toCss = ":root \x7b ".toList ++
      entries.flatMap (fun entry =>
        "--".toList ++ entry.1 ++ ": ".toList ++ Text.trim entry.2 ++ "; ".toList) ++
      "\x7d\n".toList
  get?_eq : ∀ name,
    store.get? name = (lastStored? (bareName name) operations.reverse).map Text.trim

theorem showsLastStored_after (operations : List Operation) :
    ShowsLastStored operations (empty.after operations) := by
  have hvalues (bare : Text) :
      (empty.after operations).values[bare]? = lastStored? bare operations.reverse := by
    rw [← getElem?_after, List.reverse_reverse]
  have hempty : (empty.after operations).isEmpty = operations.isEmpty := by
    rw [isEmpty_after]
    exact Bool.true_and operations.isEmpty
  constructor
  case toCss_eq_nil_iff => rw [toCss_eq_nil_iff, hempty, List.isEmpty_iff]
  case rootRule =>
    intro hne
    refine ⟨(empty.after operations).values.toList, Text.pairwise_toList _, ?_, ?_, ?_⟩
    · intro bare
      rw [Std.TreeMap.map_fst_toList_eq_keys, Std.TreeMap.mem_keys,
        Std.TreeMap.mem_iff_isSome_getElem?, hvalues, isSome_lastStored?_iff]
      simp only [List.mem_reverse]
    · intro entry hentry
      rw [← hvalues]
      exact Std.TreeMap.mem_toList_iff_getElem?_eq_some.mp hentry
    · rw [toCss, hempty, List.isEmpty_eq_false_iff.mpr hne]
      rfl
  case get?_eq =>
    intro name
    rw [get?, hvalues]

/-- Histories that leave the same values behind cannot be told apart. -/
theorem toCss_and_get?_of_lastStored? {operations others : List Operation}
    (h : ∀ bare, lastStored? bare operations.reverse = lastStored? bare others.reverse) :
    (empty.after operations).toCss = (empty.after others).toCss ∧
      ∀ name, (empty.after operations).get? name = (empty.after others).get? name := by
  apply toCss_and_get?_congr
  intro bare
  rw [← operations.reverse_reverse, ← others.reverse_reverse, getElem?_after, getElem?_after, h]

theorem bareName_of_plain {name : Text} (h : ¬ "--".toList <+: name) :
    bareName name = name := by
  fun_cases bareName name with
  | case1 bare => exact absurd (List.prefix_append "--".toList bare) h
  | case2 => rfl

/-- A store shows the values last stored under the bare names and nothing else of its history. So
two neighbouring operations on different bare names can change places. A name that does not begin
with two dashes can be given with them. -/
theorem after_shows_lastStored :
    (∀ operations, ShowsLastStored operations (empty.after operations)) ∧
    (∀ operations others : List Operation,
      (∀ bare, lastStored? bare operations.reverse = lastStored? bare others.reverse) →
      (empty.after operations).toCss = (empty.after others).toCss ∧
        ∀ name, (empty.after operations).get? name = (empty.after others).get? name) ∧
    (∀ (earlier later : List Operation) (first second : Operation),
      first.target ≠ second.target →
      (empty.after (earlier ++ first :: second :: later)).toCss =
          (empty.after (earlier ++ second :: first :: later)).toCss ∧
        ∀ name, (empty.after (earlier ++ first :: second :: later)).get? name =
          (empty.after (earlier ++ second :: first :: later)).get? name) ∧
    ∀ name, ¬ "--".toList <+: name → ∀ store : Variables,
      (∀ value, store.set ("--".toList ++ name) value = store.set name value) ∧
      (∀ change, store.update ("--".toList ++ name) change = store.update name change) ∧
      store.get? ("--".toList ++ name) = store.get? name := by
  refine ⟨showsLastStored_after, fun _ _ => toCss_and_get?_of_lastStored?, ?_, ?_⟩
  · intro earlier later first second htarget
    apply toCss_and_get?_of_lastStored?
    intro bare
    have hreverse (one other : Operation) : (earlier ++ one :: other :: later).reverse =
        later.reverse ++ other :: one :: earlier.reverse := by
      simp
    rw [hreverse, hreverse, lastStored?_swap htarget]
  · intro name hname store
    have hbare : bareName ("--".toList ++ name) = bareName name :=
      (bareName_of_plain hname).symm
    refine ⟨?_, ?_, ?_⟩
    · intro value
      rw [set, set, hbare]
    · intro change
      rw [update, update, get?, get?, set, set, hbare]
    · rw [get?, get?, hbare]

/-- An update that reads a padded value, between operations on another name. -/
theorem exists_shows_lastStored_of_update :
    ∃ (first second third : Operation) (store : Variables),
      first.target = third.target ∧ second.target ≠ third.target ∧
      ShowsLastStored [first, second, third] store ∧
      store.toCss = ":root \x7b --: [ ]; --b: 1x; \x7d\n".toList ∧
      store.toCss = (empty.after [first, third, second]).toCss ∧
      (¬ "--".toList <+: ['b']) ∧ store.get? "--b".toList = store.get? ['b'] := by
  obtain ⟨hshows, -, hswap, hdashes⟩ := after_shows_lastStored
  let first : Operation := .set "--b".toList " 1 ".toList
  let second : Operation := .update "--".toList fun current => '[' :: current ++ " ] ".toList
  let third : Operation := .update ['b'] fun current => current ++ "x ".toList
  have htarget : second.target ≠ third.target := by decide
  have hdash : ¬ "--".toList <+: ['b'] := by decide
  refine ⟨first, second, third, empty.after [first, second, third], rfl, htarget, hshows _, ?_,
    (hswap [first] [] second third htarget).1, hdash, (hdashes ['b'] hdash _).2.2⟩
  decide +kernel

end Inlay.Style.Variables
