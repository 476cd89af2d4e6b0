import RunWatch.Cache.Work
import RunWatch.Proofs.Ensemble.Likeness
import RunWatch.Proofs.Ensemble.Outdated

/-!
# What is left of an effect in flight

Whatever an effect in flight does, it does by settling what its conversation has found: a conversation changes
nothing, a fault ends the effect, and a find is settled with the ticket of the flight.  So a sort of changes that
takes in the settling takes in the rest of the effect (`Cache.each_complete` and its like), and two flights with one
conversation are alike as soon as their settling is (`RunBoard.alike_completeGraph`).
-/

namespace RunWatch

/-! ## A cache -/

namespace Cache

variable {R : Type} [Record R] {P : (Cache R → Cache R) → Prop}

theorem each_complete {flight : Flight R} (hsettle : ∀ change, P fun c => c.settle flight.ticket change) :
    (complete flight).Each P := by
  refine (Activity.each_ofDialogue P flight.dialogue).bind ?_
  rintro (fault | change)
  · trivial
  · exact ⟨hsettle change, fun c => (Activity.each_report P _).bind fun _ => trivial⟩

theorem each_perform {effect : Effect R} (hissue : P fun c => (c.issue effect).1)
    (hsettle : ∀ t change, P fun c => c.settle t change) : (perform effect).Each P :=
  ⟨hissue, fun _ => each_complete (hsettle _)⟩

end Cache

/-! ## A catalog -/

namespace Catalog

variable {P : (Catalog → Catalog) → Prop}

theorem each_completeUpdate {flight : Flight Component}
    (hsettle : ∀ change, P fun c => c.settle flight.ticket change) : (completeUpdate flight).Each P := by
  refine (Activity.each_ofDialogue P flight.dialogue).bind ?_
  rintro (fault | change)
  · trivial
  · exact ⟨hsettle change, fun c => (Activity.each_report P _).bind fun _ => trivial⟩

theorem each_completeSearch {flight : SearchFlight}
    (hsettle : ∀ page, P fun c => c.settleSearch flight.ticket flight.request page) :
    (completeSearch flight).Each P := by
  refine (Activity.each_ofDialogue P flight.dialogue).bind ?_
  rintro (fault | page)
  · trivial
  · exact ⟨hsettle page, fun _ => trivial⟩

end Catalog

/-! ## A board -/

namespace RunBoard

theorem each_completeGraph {P : (RunBoard → RunBoard) → Prop} {flight : GraphFlight} (now : Instant)
    (hsettle : ∀ graph, P fun b => b.settleGraph flight.ticket graph) : (completeGraph now flight).Each P := by
  refine (Activity.each_ofDialogue P flight.dialogue).bind ?_
  rintro (fault | page)
  · trivial
  · exact ⟨hsettle _, fun _ => trivial⟩

theorem alike_completeGraph {rel : RunBoard → RunBoard → Prop} {flight flight' : GraphFlight} (now : Instant)
    (hrun : flight.run = flight'.run) (hdialogue : flight.dialogue = flight'.dialogue)
    (hsettle : ∀ b d graph, rel b d → rel (b.settleGraph flight.ticket graph) (d.settleGraph flight'.ticket graph)) :
    Activity.Alike rel Eq (completeGraph now flight) (completeGraph now flight') := by
  obtain ⟨ticket, run, dialogue⟩ := flight
  obtain rfl : run = flight'.run := hrun
  obtain rfl : dialogue = flight'.dialogue := hdialogue
  refine (Activity.Alike.ofDialogue flight'.dialogue).bind ?_
  rintro (fault | page) _ rfl
  · exact .finished rfl
  · exact .touching (fun b d h => hsettle b d _ h) fun _ _ _ => .finished rfl

end RunBoard

end RunWatch
