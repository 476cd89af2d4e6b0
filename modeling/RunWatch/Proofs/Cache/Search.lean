import Mathlib.Data.List.Induction
import Mathlib.Data.List.Nodup
import RunWatch.Cache.Search
import RunWatch.Proofs.Cache.Listing
import RunWatch.Proofs.Past

/-!
# What a search gathers

The pages of a search overlap where the list on the platform has moved between two requests, and a search may be begun
anew at any time.  Whatever pages come in, the search has what the last first page brought, just as it came, and behind
it the `newcomers` of the pages since (`pages_gathered_once`).

`newcomers` picks them out of all components received, each by a look at those before it.  That adding components one
by one to what is there comes to the same is `foldl_addNew`, and what is said about identifiers does not depend on it.
-/

namespace RunWatch

namespace Search

open Listing (ids ids_append has_iff)

/-- A search after some more pages, each with the request that it answers. -/
def after (s : Search) (replies : List (Page Component × PageRequest)) : Search :=
  replies.foldl (fun s reply => s.merge reply.1 reply.2) s

theorem after_append (s : Search) (replies replies' : List (Page Component × PageRequest)) :
    s.after (replies ++ replies') = (s.after replies).after replies' :=
  List.foldl_append

/-! ## Newcomers -/

/-- The components whose identifiers are neither known nor those of components before them. -/
def newcomers (known : List Uuid) (cs : List Component) : List Component :=
  ((withPast cs).filter fun p => Record.id p.2 ∉ known ∧ Record.id p.2 ∉ ids p.1).map Prod.snd

variable {known : List Uuid} {c : Component} {cs : List Component}

theorem newcomers_cons (known : List Uuid) (c : Component) (cs : List Component) :
    newcomers known (c :: cs) =
      (if Record.id c ∈ known then [] else [c]) ++ newcomers (known ++ [Record.id c]) cs := by
  -- Behind a component its identifier is as good as known.
  have hbehind : ∀ p : List Component × Component,
      (Record.id p.2 ∉ known ∧ Record.id p.2 ∉ ids (c :: p.1)) ↔
        (Record.id p.2 ∉ known ++ [Record.id c] ∧ Record.id p.2 ∉ ids p.1) := by
    intro p
    have hids : ids (c :: p.1) = Record.id c :: ids p.1 := rfl
    rw [hids, List.mem_cons, List.mem_append, List.mem_singleton]
    tauto
  have hfirst : Record.id c ∉ ids ([] : List Component) := List.not_mem_nil
  have hrest : ((withPast cs).map fun p => (c :: p.1, p.2)).filter
      (fun p => Record.id p.2 ∉ known ∧ Record.id p.2 ∉ ids p.1) =
        ((withPast cs).filter fun p => Record.id p.2 ∉ known ++ [Record.id c] ∧ Record.id p.2 ∉ ids p.1).map
          fun p => (c :: p.1, p.2) := by
    rw [List.filter_map]
    simp only [Function.comp_def, hbehind]
  unfold newcomers
  by_cases h : Record.id c ∈ known
  · rw [withPast_cons, List.filter_cons_of_neg (by simpa using fun hnew => absurd h hnew), hrest, List.map_map, if_pos h]
    rfl
  · rw [withPast_cons, List.filter_cons_of_pos (by simpa using ⟨h, hfirst⟩), hrest, List.map_cons, List.map_map,
      if_neg h]
    rfl

theorem newcomers_congr {known known' : List Uuid} (h : ∀ id, id ∈ known ↔ id ∈ known') (cs : List Component) :
    newcomers known cs = newcomers known' cs := by
  refine congrArg (List.map Prod.snd) (List.filter_congr fun p _ => ?_)
  exact decide_eq_decide.mpr (and_congr_left' (not_congr (h _)))

/-- What is added one by one, each time with a look at all that is there, are the newcomers. -/
theorem foldl_addNew (all cs : List Component) : cs.foldl addNew all = all ++ newcomers (ids all) cs := by
  induction cs generalizing all with
  | nil => exact (List.append_nil all).symm
  | cons c cs ih =>
    rw [List.foldl_cons, ih, newcomers_cons, addNew]
    by_cases h : Record.id c ∈ ids all
    · have hknown : ∀ id, id ∈ ids all ↔ id ∈ ids all ++ [Record.id c] := by
        intro id
        rw [List.mem_append, List.mem_singleton]
        exact (or_iff_left_of_imp fun hid => hid ▸ h).symm
      rw [if_pos (has_iff.mpr h), if_pos h, newcomers_congr hknown, List.nil_append]
    · have hone : ids [c] = [Record.id c] := rfl
      rw [if_neg (mt has_iff.mp h), if_neg h, ids_append, hone, List.append_assoc]

/-! ## The identifiers of newcomers -/

theorem mem_newcomers :
    c ∈ newcomers known cs ↔
      ∃ past rest, cs = past ++ c :: rest ∧ Record.id c ∉ known ∧ Record.id c ∉ ids past := by
  simp only [newcomers, List.mem_map, List.mem_filter, decide_eq_true_eq, Prod.exists]
  constructor
  · rintro ⟨past, c, ⟨hmem, hnew⟩, rfl⟩
    obtain ⟨rest, hsplit⟩ := mem_withPast.mp hmem
    exact ⟨past, rest, hsplit, hnew⟩
  · rintro ⟨past, rest, hsplit, hnew⟩
    exact ⟨past, c, ⟨mem_withPast.mpr ⟨rest, hsplit⟩, hnew⟩, rfl⟩

theorem nodup_ids_newcomers (known : List Uuid) (cs : List Component) : (ids (newcomers known cs)).Nodup := by
  unfold newcomers ids
  rw [List.map_map]
  refine List.pairwise_map.mpr (List.pairwise_filter.mpr ((pairwise_withPast cs).imp fun {p q} hpast _ hq hid => ?_))
  exact (of_decide_eq_true hq).2 (List.mem_map.mpr ⟨p.2, hpast, hid⟩)

/-- Every identifier is known or that of a newcomer. -/
theorem mem_ids_of_mem (h : c ∈ cs) : Record.id c ∈ known ++ ids (newcomers known cs) := by
  by_cases hknown : Record.id c ∈ known
  · exact List.mem_append_left _ hknown
  · obtain ⟨first, hfirst⟩ : ∃ first, cs.find? (fun c' => Record.id c' = Record.id c) = some first := by
      rw [← Option.isSome_iff_exists, List.find?_isSome]
      exact ⟨c, h, decide_eq_true rfl⟩
    obtain ⟨hid, past, rest, hsplit, hpast⟩ := List.find?_eq_some_iff_append.mp hfirst
    rw [← of_decide_eq_true hid] at hknown hpast ⊢
    have hnew : Record.id first ∉ ids past := by
      intro hmem
      obtain ⟨c', hc', hid'⟩ := List.mem_map.mp hmem
      simpa [hid'] using hpast c' hc'
    exact List.mem_append_right _ (List.mem_map_of_mem (mem_newcomers.mpr ⟨past, rest, hsplit, hknown, hnew⟩))

/-! ## Pages -/

/-- Among some replies there is one to the last request for a first page. -/
theorem exists_last_first {replies : List (Page Component × PageRequest)} (h : ∃ reply ∈ replies, reply.2.page = 0) :
    ∃ before first later, replies = before ++ first :: later ∧ first.2.page = 0 ∧
      ∀ reply ∈ later, reply.2.page ≠ 0 := by
  induction replies using List.reverseRecOn with
  | nil =>
    obtain ⟨reply, hreply, -⟩ := h
    cases hreply
  | append_singleton replies last ih =>
    by_cases hlast : last.2.page = 0
    · exact ⟨replies, last, [], rfl, hlast, nofun⟩
    · obtain ⟨reply, hreply, hpage⟩ := h
      obtain hreply | hreply := List.mem_append.mp hreply
      · obtain ⟨before, first, later, rfl, hfirst, hlater⟩ := ih ⟨reply, hreply, hpage⟩
        refine ⟨before, first, later ++ [last], by simp, hfirst, fun other hother => ?_⟩
        obtain hother | hother := List.mem_append.mp hother
        · exact hlater other hother
        · exact List.mem_singleton.mp hother ▸ hlast
      · exact absurd (List.mem_singleton.mp hreply ▸ hpage) hlast

/-- The components that some pages bring. -/
def received (replies : List (Page Component × PageRequest)) : List Component :=
  replies.flatMap fun reply => reply.1.items

theorem all_after_later {later : List (Page Component × PageRequest)} (hlater : ∀ reply ∈ later, reply.2.page ≠ 0)
    (s : Search) : (s.after later).all = s.all ++ newcomers (ids s.all) (received later) := by
  rw [← foldl_addNew]
  induction later generalizing s with
  | nil => rfl
  | cons reply later ih =>
    have hmerge : (s.merge reply.1 reply.2).all = reply.1.items.foldl addNew s.all :=
      if_neg (hlater reply List.mem_cons_self)
    have hrest := ih (fun other hother => hlater other (List.mem_cons_of_mem reply hother)) (s.merge reply.1 reply.2)
    rw [hmerge, ← List.foldl_append] at hrest
    exact hrest

/-- A first page makes the search forget what it had. -/
theorem all_after_first {first : Page Component × PageRequest} (hfirst : first.2.page = 0)
    {later : List (Page Component × PageRequest)} (hlater : ∀ reply ∈ later, reply.2.page ≠ 0)
    (before : List (Page Component × PageRequest)) (s : Search) :
    (s.after (before ++ first :: later)).all =
      first.1.items ++ newcomers (ids first.1.items) (received later) := by
  have hstart : ((s.after before).merge first.1 first.2).all = first.1.items := if_pos hfirst
  have hrest := all_after_later hlater ((s.after before).merge first.1 first.2)
  rw [hstart] at hrest
  rw [after_append]
  exact hrest

/-- The pages of a search come in one after the other, and at least once it is begun anew.  What it has gathered is the
last first page as it came, and behind it the newcomers of the pages since.  So it has every identifier received since
then, and repeats none that the first page does not repeat; its total and its page are those of the last reply. -/
theorem pages_gathered_once (s : Search) {replies : List (Page Component × PageRequest)}
    (hbegun : ∃ reply ∈ replies, reply.2.page = 0) :
    ∃ before first later last, replies = before ++ first :: later ∧ first.2.page = 0 ∧
      (∀ reply ∈ later, reply.2.page ≠ 0) ∧ replies.getLast? = some last ∧
      (let all := (s.after replies).all
      let added := newcomers (ids first.1.items) (received later)
      all = first.1.items ++ added ∧
        (∀ c ∈ first.1.items ++ received later, Record.id c ∈ ids all) ∧
        ((ids added).Nodup ∧ ∀ c ∈ added, Record.id c ∉ ids first.1.items) ∧
        ((ids first.1.items).Nodup → (ids all).Nodup)) ∧
      (s.after replies).total = last.1.total.toNat ∧ (s.after replies).page = some last.2.page := by
  obtain ⟨before, first, later, rfl, hfirst, hlater⟩ := exists_last_first hbegun
  have hall := all_after_first hfirst hlater before s
  obtain ⟨others, last, hlast⟩ := (List.eq_nil_or_concat' (before ++ first :: later)).resolve_left (by simp)
  have hnew : ∀ c ∈ newcomers (ids first.1.items) (received later), Record.id c ∉ ids first.1.items := by
    intro c hc
    obtain ⟨-, -, -, hunknown, -⟩ := mem_newcomers.mp hc
    exact hunknown
  refine ⟨before, first, later, last, rfl, hfirst, hlater, ?_, ⟨hall, ?_, ⟨nodup_ids_newcomers _ _, hnew⟩, ?_⟩, ?_⟩
  · rw [hlast, List.getLast?_concat]
  · intro c hc
    rw [hall, ids_append]
    obtain hc | hc := List.mem_append.mp hc
    · exact List.mem_append_left _ (List.mem_map_of_mem hc)
    · exact mem_ids_of_mem hc
  · intro hnodup
    rw [hall, ids_append]
    refine List.Nodup.append hnodup (nodup_ids_newcomers _ _) fun id hid hadded => ?_
    obtain ⟨c, hc, rfl⟩ := List.mem_map.mp hadded
    exact hnew c hc hid
  · rw [hlast, after_append]
    exact ⟨rfl, rfl⟩

/-- A search is begun anew with a page that repeats an identifier.  The pages behind it bring one component of that
page again, and one that is at hand from before. -/
theorem repeated_components_gathered_once :
    let component (d : Fin 16) (key : String) : Component :=
      ⟨⟨⟨List.replicate 32 d, rfl⟩, "orders", none, none, none, true⟩, .dataset, key, none, none, none, []⟩
    let replies : List (Page Component × PageRequest) :=
      [(⟨[component 1 "a"], 5⟩, .plain 1 20), (⟨[component 2 "b", component 2 "c"], 4⟩, .plain 0 20),
        (⟨[component 2 "d", component 3 "e", component 3 "f"], 4⟩, .plain 1 20), (⟨[component 1 "g"], 3⟩, .plain 2 20)]
    let s := (⟨[component 1 "a"], 5, none⟩ : Search).after replies
    (∃ reply ∈ replies, reply.2.page = 0) ∧
      s.all = [component 2 "b", component 2 "c", component 3 "e", component 1 "g"] ∧ s.total = 3 ∧ s.page = some 2 := by
  intro component replies s
  have hbegun : ∃ reply ∈ replies, reply.2.page = 0 := by decide
  obtain ⟨-, -, -, last, -, -, -, hlast, -, htotal, hpage⟩ := pages_gathered_once ⟨[component 1 "a"], 5, none⟩ hbegun
  obtain rfl := Option.some.inj hlast
  exact ⟨hbegun, by decide, htotal, hpage⟩

end Search

end RunWatch
