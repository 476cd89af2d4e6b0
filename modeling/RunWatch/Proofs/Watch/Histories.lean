import RunWatch.Proofs.Past
import RunWatch.Watch.Watcher

/-!
# Histories of overlapping cycles

What can be read off a history of cycles without playing it.  A history is a list of `Move`s: a cycle begins, a reply
arrives for it, or it goes on from the step that puts its page on the board to the look at it.  `trails` says how far
the cycles have come, `landings` lists the pages that are put on the board, and `looks` the looks at it, each with the
page that it finds.

A page lands if it is the first reply to the cycle begun last (`landing?`).  A cycle looks once its page has landed, and
what it finds is the page that has landed last (`look?`), its own or a later one.  `Coherent` says how landings and
looks go together in every history, and `KeepsUp` singles out those in which no page lands before the one on the board
has been looked at.
-/

namespace RunWatch.Watch.Watcher

/-- What can happen to a watcher; cycles are counted in the order in which they begin. -/
inductive Move where
  /-- Another cycle begins. -/
  | begin
  /-- A reply arrives for a cycle. -/
  | reply (i : Nat) (reply : Api.Reply)
  /-- A cycle goes on from the step in which it has settled its page. -/
  | proceed (i : Nat)

/-! ## How far the cycles have come -/

/-- How far a cycle has come. -/
inductive Trail where
  /-- It waits for the reply to its page request. -/
  | waiting
  /-- The reply is there, and the cycle has not gone on since. -/
  | held (first : Api.Reply)
  /-- It has gone on, and has had some replies more. -/
  | gone (first : Api.Reply) (rest : List Api.Reply)
  deriving DecidableEq

namespace Trail

/-- The reply to the page request. -/
def first? : Trail → Option Api.Reply
  | waiting => none
  | held first => some first
  | gone first _ => some first

/-- After a reply; one that comes before the cycle goes on is none that it waits for. -/
def hear (r : Api.Reply) : Trail → Trail
  | waiting => held r
  | held first => held first
  | gone first rest => gone first (rest ++ [r])

/-- After the cycle was to go on. -/
def goOn : Trail → Trail
  | waiting => waiting
  | held first => gone first []
  | gone first rest => gone first rest

/-- After a move, for the cycle in a place. -/
def after (i : Nat) (m : Move) (t : Trail) : Trail :=
  match m with
  | .begin => t
  | .reply j r => if j = i then t.hear r else t
  | .proceed j => if j = i then t.goOn else t

/-- What the first reply was is not forgotten. -/
theorem first?_after {t : Trail} {first : Api.Reply} (h : t.first? = some first) (i : Nat) (m : Move) :
    (t.after i m).first? = some first := by
  have hhear (r : Api.Reply) : (t.hear r).first? = some first := by
    cases t with
    | waiting => cases h
    | held first => exact h
    | gone first rest => exact h
  have hgoOn : t.goOn.first? = some first := by
    cases t with
    | waiting => cases h
    | held first => exact h
    | gone first rest => exact h
  cases m with
  | begin => exact h
  | reply j r =>
    rw [after]
    split
    · exact hhear r
    · exact h
  | proceed j =>
    rw [after]
    split
    · exact hgoOn
    · exact h

/-- A cycle that has gone on does not come back. -/
theorem gone_after (first : Api.Reply) (rest : List Api.Reply) (i : Nat) (m : Move) :
    ∃ rest', (gone first rest).after i m = gone first rest' := by
  cases m with
  | begin => exact ⟨rest, rfl⟩
  | reply j r =>
    rw [after]
    split
    · exact ⟨rest ++ [r], rfl⟩
    · exact ⟨rest, rfl⟩
  | proceed j => exact ⟨rest, ite_self _⟩

theorem waiting_after {i : Nat} {m : Move} (hm : ∀ r, m ≠ .reply i r) : waiting.after i m = waiting := by
  cases m with
  | begin => rfl
  | reply j r => exact if_neg fun hj => hm r (by rw [hj])
  | proceed j => exact ite_self _

theorem held_after {first : Api.Reply} {i : Nat} {m : Move} (hm : m ≠ .proceed i) :
    (held first).after i m = held first := by
  cases m with
  | begin => rfl
  | reply j r => exact ite_self _
  | proceed j => exact if_neg fun hj => hm (by rw [hj])

theorem gone_after_of_ne {first : Api.Reply} {rest : List Api.Reply} {i : Nat} {m : Move}
    (hm : ∀ r, m ≠ .reply i r) : (gone first rest).after i m = gone first rest := by
  cases m with
  | begin => rfl
  | reply j r => exact if_neg fun hj => hm r (by rw [hj])
  | proceed j => exact ite_self _

end Trail

/-- The trails of all cycles after one move more. -/
def follow (trails : List Trail) : Move → List Trail
  | .begin => trails ++ [.waiting]
  | .reply i r => trails.modify i (Trail.hear r)
  | .proceed i => trails.modify i Trail.goOn

/-- How far each cycle has come. -/
def trails (moves : List Move) : List Trail :=
  moves.foldl follow []

variable {moves : List Move} {i : Nat} {t : Trail}

theorem trails_concat (moves : List Move) (m : Move) : trails (moves ++ [m]) = follow (trails moves) m :=
  List.foldl_append

theorem trail_after (h : (trails moves)[i]? = some t) (m : Move) :
    (trails (moves ++ [m]))[i]? = some (t.after i m) := by
  rw [trails_concat]
  cases m with
  | begin => exact (List.getElem?_append_left (List.getElem?_eq_some_iff.mp h).1).trans h
  | reply j r =>
    by_cases hj : j = i
    · simp [follow, Trail.after, hj, h]
    · simp [follow, Trail.after, hj, h, List.getElem?_modify_ne _ _ hj]
  | proceed j =>
    by_cases hj : j = i
    · simp [follow, Trail.after, hj, h]
    · simp [follow, Trail.after, hj, h, List.getElem?_modify_ne _ _ hj]

/-- Only a cycle that begins brings a trail. -/
theorem length_trails_concat (moves : List Move) {m : Move} (hm : m ≠ .begin) :
    (trails (moves ++ [m])).length = (trails moves).length := by
  rw [trails_concat]
  cases m with
  | begin => exact absurd rfl hm
  | reply i r => exact List.length_modify ..
  | proceed i => exact List.length_modify ..

/-! ## Landings and looks -/

/-- A page on the board, and the cycle that has brought it. -/
structure Landing where
  cycle : Nat
  page : Page Run
  deriving DecidableEq

/-- A look at the board: the cycle that looks, and what has landed last. -/
structure Look where
  cycle : Nat
  landing : Landing
  deriving DecidableEq

/-- The page that a move puts on the board: the first reply to the cycle begun last, if it is a page. -/
def landing? (moves : List Move) : Move → Option Landing
  | .reply i r =>
    if (trails moves)[i]? = some .waiting ∧ i + 1 = (trails moves).length then
      (r.decode (Page.codec Run)).toOption.map (⟨i, ·⟩)
    else none
  | _ => none

/-- The pages that are put on the board over a history. -/
def landings (moves : List Move) : List Landing :=
  (withPast moves).filterMap fun p => landing? p.1 p.2

/-- Whether the page of a cycle has landed. -/
def HasLanded (moves : List Move) (i : Nat) : Prop :=
  i ∈ (landings moves).map Landing.cycle

instance (moves : List Move) (i : Nat) : Decidable (HasLanded moves i) :=
  inferInstanceAs (Decidable (i ∈ (landings moves).map Landing.cycle))

/-- The look that a move brings: the cycle goes on whose page has landed. -/
def look? (moves : List Move) : Move → Option Look
  | .proceed i =>
    match (trails moves)[i]? with
    | some (.held _) => if HasLanded moves i then (landings moves).getLast?.map (⟨i, ·⟩) else none
    | _ => none
  | _ => none

/-- The looks that are taken over a history. -/
def looks (moves : List Move) : List Look :=
  (withPast moves).filterMap fun p => look? p.1 p.2

/-- Whether a cycle has looked at the board. -/
def HasLooked (moves : List Move) (i : Nat) : Prop :=
  i ∈ (looks moves).map Look.cycle

/-- The page that each look finds. -/
def pagesSeen (moves : List Move) : List (Page Run) :=
  (looks moves).map fun look => look.landing.page

theorem filterMap_single {α β : Type} (f : α → Option β) (x : α) : [x].filterMap f = (f x).toList := by
  cases h : f x <;> simp [h]

theorem landings_concat (moves : List Move) (m : Move) :
    landings (moves ++ [m]) = landings moves ++ (landing? moves m).toList := by
  rw [landings, withPast_concat, List.filterMap_append, filterMap_single]
  rfl

theorem looks_concat (moves : List Move) (m : Move) :
    looks (moves ++ [m]) = looks moves ++ (look? moves m).toList := by
  rw [looks, withPast_concat, List.filterMap_append, filterMap_single]
  rfl

theorem pagesSeen_concat (moves : List Move) (m : Move) :
    pagesSeen (moves ++ [m]) = pagesSeen moves ++ (look? moves m).toList.map fun look => look.landing.page := by
  rw [pagesSeen, looks_concat, List.map_append]
  rfl

theorem landing?_eq_some {m : Move} {l : Landing} :
    landing? moves m = some l ↔ ∃ r, m = .reply l.cycle r ∧ (trails moves)[l.cycle]? = some .waiting ∧
      l.cycle + 1 = (trails moves).length ∧ r.decode (Page.codec Run) = .ok l.page := by
  cases m with
  | begin => exact iff_of_false nofun nofun
  | proceed i => exact iff_of_false nofun nofun
  | reply i r =>
    obtain ⟨j, page⟩ := l
    by_cases hlast : (trails moves)[i]? = some .waiting ∧ i + 1 = (trails moves).length
    · rw [landing?, if_pos hlast]
      constructor
      · intro h
        obtain ⟨p, hp, heq⟩ := Option.map_eq_some_iff.mp h
        obtain ⟨rfl, rfl⟩ := Landing.mk.inj heq
        refine ⟨r, rfl, hlast.1, hlast.2, ?_⟩
        cases hdecode : r.decode (Page.codec Run) with
        | error fault =>
          rw [hdecode] at hp
          cases hp
        | ok p' =>
          rw [hdecode] at hp
          exact congrArg Except.ok (Option.some.inj hp)
      · rintro ⟨r', h, -, -, hdecode⟩
        obtain ⟨rfl, rfl⟩ := Move.reply.inj h
        rw [hdecode]
        rfl
    · rw [landing?, if_neg hlast]
      refine iff_of_false nofun ?_
      rintro ⟨r', h, hwaiting, hlength, -⟩
      obtain ⟨rfl, rfl⟩ := Move.reply.inj h
      exact hlast ⟨hwaiting, hlength⟩

theorem look?_eq_some {m : Move} {look : Look} :
    look? moves m = some look ↔ m = .proceed look.cycle ∧ (∃ first, (trails moves)[look.cycle]? = some (.held first)) ∧
      HasLanded moves look.cycle ∧ (landings moves).getLast? = some look.landing := by
  cases m with
  | begin => exact iff_of_false nofun nofun
  | reply i r => exact iff_of_false nofun nofun
  | proceed i =>
    obtain ⟨j, landing⟩ := look
    rw [look?]
    split
    · rename_i first htrail
      by_cases hlanded : HasLanded moves i
      · simp only [if_pos hlanded, Option.map_eq_some_iff, Look.mk.injEq, Move.proceed.injEq]
        constructor
        · rintro ⟨l, hl, rfl, rfl⟩
          exact ⟨rfl, ⟨first, htrail⟩, hlanded, hl⟩
        · rintro ⟨rfl, -, -, hl⟩
          exact ⟨landing, hl, rfl, rfl⟩
      · rw [if_neg hlanded]
        refine iff_of_false nofun ?_
        rintro ⟨h, -, hlanded', -⟩
        obtain rfl := Move.proceed.inj h
        exact hlanded hlanded'
    · rename_i hother
      refine iff_of_false nofun ?_
      rintro ⟨h, ⟨first, htrail⟩, -⟩
      obtain rfl := Move.proceed.inj h
      exact hother first htrail

/-! ## How they go together -/

/-- What holds of the landings and looks of every history. -/
structure Coherent (moves : List Move) : Prop where
  /-- A page lands in answer to the request of its cycle. -/
  heard : ∀ l ∈ landings moves, ∃ t first, (trails moves)[l.cycle]? = some t ∧ t.first? = some first ∧
    first.decode (Page.codec Run) = .ok l.page
  /-- Pages land in the order in which they were asked for. -/
  increasing : (landings moves).Pairwise fun l l' => l.cycle < l'.cycle
  /-- A cycle looks when it goes on, -/
  gone : ∀ look ∈ looks moves, ∃ first rest, (trails moves)[look.cycle]? = some (.gone first rest)
  /-- and only once, -/
  once : (looks moves).Pairwise fun look look' => look.cycle ≠ look'.cycle
  /-- after its page has landed; it finds this page or one that has landed later. -/
  own : ∀ look ∈ looks moves,
    HasLanded moves look.cycle ∧ look.landing ∈ landings moves ∧ look.cycle ≤ look.landing.cycle
  /-- No look finds an earlier page than the looks before it. -/
  ordered : (looks moves).Pairwise fun look look' => look.landing.cycle ≤ look'.landing.cycle

/-- Where the cycles increase, the last landing has the greatest one. -/
theorem cycle_le_getLast {ls : List Landing} (h : ls.Pairwise fun l l' => l.cycle < l'.cycle) {last : Landing}
    (hlast : ls.getLast? = some last) {l : Landing} (hl : l ∈ ls) : l.cycle ≤ last.cycle := by
  obtain ⟨front, rfl⟩ := List.getLast?_eq_some_iff.mp hlast
  rcases List.mem_append.mp hl with hl | hl
  · exact Nat.le_of_lt ((List.pairwise_append.mp h).2.2 l hl last (List.mem_singleton_self last))
  · exact Nat.le_of_eq (congrArg Landing.cycle (List.mem_singleton.mp hl))

theorem HasLanded.concat (h : HasLanded moves i) (m : Move) : HasLanded (moves ++ [m]) i := by
  rw [HasLanded, landings_concat, List.map_append]
  exact List.mem_append_left _ h

/-- A page lands only as the first reply to its cycle. -/
theorem hasLanded_concat_iff {first : Api.Reply} (htrail : (trails moves)[i]? = some t) (hfirst : t.first? = some first)
    {m : Move} : HasLanded (moves ++ [m]) i ↔ HasLanded moves i := by
  refine ⟨fun h => ?_, fun h => h.concat m⟩
  rw [HasLanded, landings_concat, List.map_append, List.mem_append] at h
  refine h.resolve_right fun hnew => ?_
  obtain ⟨l, hl, rfl⟩ := List.mem_map.mp hnew
  obtain ⟨r, rfl, hwaiting, -⟩ := landing?_eq_some.mp (Option.mem_toList.mp hl)
  obtain rfl := Option.some.inj (hwaiting.symm.trans htrail)
  cases hfirst

theorem mem_append_toList {α : Type} {xs : List α} {o : Option α} {x : α} :
    x ∈ xs ++ o.toList ↔ x ∈ xs ∨ o = some x := by
  rw [List.mem_append, Option.mem_toList]

theorem pairwise_append_toList {α : Type} {R : α → α → Prop} {xs : List α} {o : Option α} (h : xs.Pairwise R)
    (ho : ∀ x ∈ xs, ∀ y, o = some y → R x y) : (xs ++ o.toList).Pairwise R := by
  refine List.pairwise_append.mpr ⟨h, ?_, fun x hx y hy => ho x hx y (Option.mem_toList.mp hy)⟩
  cases o with
  | none => exact .nil
  | some y => exact List.pairwise_singleton R y

theorem Coherent.step (h : Coherent moves) (m : Move) : Coherent (moves ++ [m]) := by
  refine ⟨?_, ?_, ?_, ?_, ?_, ?_⟩
  · rw [landings_concat]
    intro l hl
    rcases mem_append_toList.mp hl with hl | hl
    · obtain ⟨t, first, htrail, hfirst, hpage⟩ := h.heard l hl
      exact ⟨_, first, trail_after htrail m, Trail.first?_after hfirst _ _, hpage⟩
    · obtain ⟨r, rfl, htrail, -, hpage⟩ := landing?_eq_some.mp hl
      exact ⟨_, r, trail_after htrail _, by simp [Trail.after, Trail.hear, Trail.first?], hpage⟩
  · rw [landings_concat]
    refine pairwise_append_toList h.increasing fun l hl l' hl' => ?_
    -- The page that lands is that of the cycle begun last, and of no cycle that has heard anything before.
    obtain ⟨r, rfl, htrail, hlast, -⟩ := landing?_eq_some.mp hl'
    obtain ⟨t, first, htrail', hfirst, -⟩ := h.heard l hl
    have hlt := (List.getElem?_eq_some_iff.mp htrail').1
    have hne : l.cycle ≠ l'.cycle := by
      intro heq
      rw [heq, htrail] at htrail'
      obtain rfl := Option.some.inj htrail'
      cases hfirst
    omega
  · rw [looks_concat]
    intro look hlook
    rcases mem_append_toList.mp hlook with hlook | hlook
    · obtain ⟨first, rest, htrail⟩ := h.gone look hlook
      obtain ⟨rest', hafter⟩ := Trail.gone_after first rest look.cycle m
      exact ⟨first, rest', hafter ▸ trail_after htrail m⟩
    · obtain ⟨rfl, ⟨first, htrail⟩, -⟩ := look?_eq_some.mp hlook
      refine ⟨first, [], (trail_after htrail _).trans ?_⟩
      simp [Trail.after, Trail.goOn]
  · rw [looks_concat]
    refine pairwise_append_toList h.once fun look hlook look' hlook' heq => ?_
    obtain ⟨rfl, ⟨first, htrail⟩, -⟩ := look?_eq_some.mp hlook'
    obtain ⟨first', rest, htrail'⟩ := h.gone look hlook
    rw [heq, htrail] at htrail'
    cases htrail'
  · rw [looks_concat, landings_concat]
    intro look hlook
    rcases mem_append_toList.mp hlook with hlook | hlook
    · obtain ⟨hlanded, hmem, hle⟩ := h.own look hlook
      exact ⟨hlanded.concat m, List.mem_append_left _ hmem, hle⟩
    · obtain ⟨-, -, hlanded, hlast⟩ := look?_eq_some.mp hlook
      obtain ⟨l, hl, heq⟩ := List.mem_map.mp hlanded
      refine ⟨hlanded.concat m, List.mem_append_left _ (List.mem_of_getLast? hlast), ?_⟩
      exact heq ▸ cycle_le_getLast h.increasing hlast hl
  · rw [looks_concat]
    refine pairwise_append_toList h.ordered fun look hlook look' hlook' => ?_
    obtain ⟨-, -, -, hlast⟩ := look?_eq_some.mp hlook'
    exact cycle_le_getLast h.increasing hlast (h.own look hlook).2.1

theorem coherent (moves : List Move) : Coherent moves := by
  induction moves using List.reverseRecOn with
  | nil => exact ⟨nofun, .nil, nofun, .nil, nofun, .nil⟩
  | append_singleton moves m ih => exact ih.step m

/-- A cycle that waits for its page has neither landed it nor looked. -/
theorem not_hasLanded_of_waiting (h : (trails moves)[i]? = some .waiting) : ¬HasLanded moves i := by
  intro hi
  obtain ⟨l, hl, rfl⟩ := List.mem_map.mp hi
  obtain ⟨t, first, htrail, hfirst, -⟩ := (coherent moves).heard l hl
  obtain rfl := Option.some.inj (h.symm.trans htrail)
  cases hfirst

theorem not_hasLooked_of_waiting (h : (trails moves)[i]? = some .waiting) : ¬HasLooked moves i := by
  intro hi
  obtain ⟨look, hlook, rfl⟩ := List.mem_map.mp hi
  exact not_hasLanded_of_waiting h ((coherent moves).own look hlook).1

theorem exists_getLast_of_hasLanded (h : HasLanded moves i) : ∃ l, (landings moves).getLast? = some l := by
  obtain ⟨l, hl, -⟩ := List.mem_map.mp h
  exact Option.ne_none_iff_exists'.mp (mt List.getLast?_eq_none_iff.mp (List.ne_nil_of_mem hl))

/-- A cycle that has looked does not look again. -/
theorem not_look?_of_hasLooked {look look' : Look} (hlook : look ∈ looks moves) {m : Move}
    (hnew : look? moves m = some look') : look.cycle ≠ look'.cycle := by
  intro heq
  obtain ⟨-, ⟨first, htrail⟩, -⟩ := look?_eq_some.mp hnew
  obtain ⟨first', rest, htrail'⟩ := (coherent moves).gone look hlook
  rw [heq, htrail] at htrail'
  cases htrail'

/-! ## Histories whose looks keep up -/

/-- At no time have two pages landed that have not been looked at: a cycle that has put its page on the board looks at
it before another page lands. -/
def KeepsUp (moves : List Move) : Prop :=
  ∀ past ∈ moves.inits, (landings past).length ≤ (looks past).length + 1

instance (moves : List Move) : Decidable (KeepsUp moves) :=
  inferInstanceAs (Decidable (∀ past ∈ moves.inits, (landings past).length ≤ (looks past).length + 1))

theorem KeepsUp.of_concat {m : Move} (h : KeepsUp (moves ++ [m])) : KeepsUp moves := by
  intro past hpast
  refine h past ((List.mem_inits _ _).mpr ?_)
  exact ((List.mem_inits _ _).mp hpast).trans (List.prefix_append moves [m])

theorem KeepsUp.length_le (h : KeepsUp moves) : (landings moves).length ≤ (looks moves).length + 1 :=
  h moves ((List.mem_inits _ _).mpr (List.prefix_refl moves))

/-- If the looks keep up, each finds the page of its own cycle, and together they find all pages that have landed, in
their order; the look at the last one may still be due. -/
theorem KeepsUp.looks_landings (h : KeepsUp moves) :
    (∀ look ∈ looks moves, look.landing.cycle = look.cycle) ∧
      ∃ due, due.length ≤ 1 ∧ landings moves = (looks moves).map Look.landing ++ due := by
  induction moves using List.reverseRecOn with
  | nil => exact ⟨nofun, [], Nat.zero_le 1, rfl⟩
  | append_singleton moves m ih =>
    obtain ⟨hown, due, hdue, hlandings⟩ := ih h.of_concat
    rw [landings_concat, looks_concat]
    cases hlook : look? moves m with
    | some look =>
      obtain ⟨rfl, -, hlanded, hlast⟩ := look?_eq_some.mp hlook
      -- What the cycle has landed is none of the pages looked at, so it is the one that is due, and the last one.
      obtain ⟨l, hl, heq⟩ := List.mem_map.mp hlanded
      have hmem : l ∈ due := by
        rw [hlandings] at hl
        refine (List.mem_append.mp hl).resolve_left fun hlooked => ?_
        obtain ⟨look', hlook', rfl⟩ := List.mem_map.mp hlooked
        exact not_look?_of_hasLooked hlook' hlook ((hown look' hlook').symm.trans heq)
      obtain rfl : due = [l] := by
        cases due with
        | nil => exact absurd hmem List.not_mem_nil
        | cons d rest =>
          obtain rfl : rest = [] := List.eq_nil_of_length_eq_zero (Nat.le_zero.mp (Nat.le_of_succ_le_succ hdue))
          rw [List.mem_singleton.mp hmem]
      obtain rfl : l = look.landing := by
        rw [hlandings, List.getLast?_concat] at hlast
        exact Option.some.inj hlast
      refine ⟨fun look' hlook' => ?_, [], Nat.zero_le 1, ?_⟩
      · rcases List.mem_append.mp hlook' with hlook' | hlook'
        · exact hown look' hlook'
        · rw [List.mem_singleton.mp hlook', heq]
      · rw [hlandings, List.map_append, List.append_nil]
        exact List.append_nil _
    | none =>
      rw [Option.toList_none, List.append_nil]
      refine ⟨hown, ?_⟩
      cases hlanding : landing? moves m with
      | none => exact ⟨due, hdue, by rw [hlandings, Option.toList_none, List.append_nil]⟩
      | some l =>
        have hlength := h.length_le
        simp only [landings_concat, looks_concat, hlandings, hlook, hlanding, List.length_append, List.length_map,
          Option.toList_none, Option.toList_some, List.length_nil, List.length_singleton] at hlength
        obtain rfl : due = [] := List.eq_nil_of_length_eq_zero (by omega)
        exact ⟨[l], Nat.le_refl 1, by rw [hlandings, List.append_nil, Option.toList_some]⟩

end RunWatch.Watch.Watcher
