import DiskUploader.Proofs.UploadFrame
import DiskUploader.Upload.Pipeline

/-!
# Rehearsals are framed

A rehearsal keeps the engine's state, the transport's log and the upload in progress in three
parts of its world. The in-memory engine reads and writes only its own part, and the scripted
transport only its log and the tokens; the body it sends is read through the reader it is
handed, which is the only party that touches the upload. So the uploader of every rehearsal is
framed, and what holds of framed uploaders holds of every rehearsed upload.

Both facts are stated for every frame that the engine's and the transport's own writes keep, so
that they serve whatever else a world holds beside the engine and the transport.
-/

namespace DiskUploader

variable {σ α : Type}

/-- Every call of the engine keeps `R`. -/
structure Engine.Keeps (R : World σ → World σ → Prop) (e : Engine σ) : Prop where
  createDisk : ∀ p c, Timed.Keeps R (e.createDisk p c)
  getDisk : ∀ id, Timed.Keeps R (e.getDisk id)
  removeDisk : ∀ id, Timed.Keeps R (e.removeDisk id)
  createTransfer : ∀ d dir c, Timed.Keeps R (e.createTransfer d dir c)
  getTransfer : ∀ id, Timed.Keeps R (e.getTransfer id)
  finalizeTransfer : ∀ id c, Timed.Keeps R (e.finalizeTransfer id c)
  cancelTransfer : ∀ id, Timed.Keeps R (e.cancelTransfer id)
  listJobs : ∀ c, Timed.Keeps R (e.listJobs c)

theorem Timed.unchanged_frame {β : Type} (V : σ → β) :
    Timed.Frame (fun w w' : World σ => V w'.state = V w.state) where
  trans h₁ h₂ := h₂.trans h₁
  timeline h := by rw [h]

variable {R : World σ → World σ → Prop} (hR : Timed.Frame R)

include hR in
theorem Timed.Keeps.pure (a : α) : Timed.Keeps R (pure a : Timed σ α) :=
  .of_stateless hR (Timed.Stateless.pure _)

namespace Mock

variable {b : MockBehavior} {l : Lens σ MockState}
  (hs : ∀ f, Timed.Keeps R (Timed.modifyState (l.update f)))
include hR hs

omit hs in
theorem keeps_view : Timed.Keeps R (view l) := .of_stateless hR fun _ => rfl

omit hs in
theorem keeps_freshId : Timed.Keeps R (freshId : Timed σ String) := .of_stateless hR fun _ => rfl

theorem keeps_entered (c : EngineCall) {k : Timed σ (Except Fault α)} (hk : Timed.Keeps R k) :
    Timed.Keeps R (entered l c k) := by
  refine .bind hR (.bind hR (keeps_view hR) fun m => ?_) fun r => ?_
  · exact .bind hR (hs _) fun _ => .pure hR _
  · rcases r with _ | _
    · exact .pure hR _
    · exact hk

theorem keeps_startJob (c : CorrelationId) (d : String) : Timed.Keeps R (startJob b l c d) :=
  .bind hR (keeps_freshId hR) fun _ => .bind hR (keeps_view hR) fun _ => hs _

/-- The in-memory engine writes only its own part of the world. -/
theorem engine_keeps : (engine b l).Keeps R where
  createDisk _ _ := keeps_entered hR hs _ <| .bind hR (keeps_freshId hR) fun _ =>
    .bind hR (keeps_view hR) fun _ => .bind hR (hs _) fun _ =>
      .bind hR (keeps_startJob hR hs _ _) fun _ => .pure hR _
  getDisk _ := keeps_entered hR hs _ <| .bind hR (keeps_view hR) fun _ => by
    split
    · exact .pure hR _
    · exact .bind hR (hs _) fun _ => .pure hR _
  removeDisk _ := keeps_entered hR hs _ <| .bind hR (keeps_view hR) fun _ => by
    split
    · exact .pure hR _
    · exact .bind hR (hs _) fun _ => .pure hR _
  createTransfer _ _ _ := keeps_entered hR hs _ <| .bind hR (keeps_view hR) fun _ => by
    split
    · exact .pure hR _
    · exact .bind hR (keeps_freshId hR) fun _ => .bind hR (keeps_view hR) fun _ =>
        .bind hR (hs _) fun _ => .pure hR _
  getTransfer _ := keeps_entered hR hs _ <| .bind hR (keeps_view hR) fun _ => by
    split
    · exact .pure hR _
    · exact .bind hR (hs _) fun _ => .pure hR _
  finalizeTransfer _ _ := keeps_entered hR hs _ <| .bind hR (keeps_view hR) fun _ => by
    split
    · exact .pure hR _
    · exact .bind hR (hs _) fun _ => .bind hR (keeps_startJob hR hs _ _) fun _ => .pure hR _
  cancelTransfer _ := keeps_entered hR hs _ <| .bind hR (keeps_view hR) fun _ => by
    split
    · exact .pure hR _
    · exact .bind hR (hs _) fun _ => .pure hR _
  listJobs _ := keeps_entered hR hs _ <| .bind hR (keeps_view hR) fun _ =>
    .bind hR (hs _) fun _ => .pure hR _

end Mock

namespace TransportScript

variable {t : TransportScript} {l : Lens σ TransportLog}
  (hs : ∀ f, Timed.Keeps R (Timed.modifyState (l.update f)))
include hR hs

theorem keeps_probe (url : String) : Timed.Keeps R (t.probe l url) := by
  refine .bind hR (.of_stateless hR fun _ => rfl) fun s => ?_
  dsimp only
  -- past the optional cancellation, both ways answer from the script
  split
  on_goal 1 => refine .bind hR (.of_stateless hR fun _ => rfl) fun _ => ?_
  all_goals
    split
    · exact .bind hR (hs _) fun _ => .pure hR _
    · refine .bind hR (hs _) fun _ => ?_
      split <;> exact .pure hR _

variable {read : BodyReader σ} (hread : ∀ k, Timed.Keeps R (read k))
include hread

omit hs in
theorem keeps_receive : ∀ fuel acc fired, Timed.Keeps R (t.receive read fuel acc fired) := by
  intro fuel
  induction fuel with
  | zero => exact fun _ _ => .pure hR _
  | succ n ih =>
    intro acc fired
    rw [TransportScript.receive]
    refine .bind hR (hread _) fun r => ?_
    rcases r with e | bs
    · exact .pure hR _
    · dsimp only
      split
      · exact .pure hR _
      · split
        · exact .bind hR (.of_stateless hR fun _ => rfl) fun _ => ih _ _
        · exact ih _ _

theorem keeps_put (url : String) (n : Nat) : Timed.Keeps R (t.put l url n read) := by
  unfold TransportScript.put
  dsimp only
  -- a scripted panic comes before anything is read; otherwise the body is read in full
  split
  on_goal 1 =>
    refine .bind hR (.of_stateless hR (Timed.Stateless.throw _)) fun _ => ?_
  all_goals
    refine .bind hR (keeps_receive hR hread _ _ _) fun r => ?_
    rcases r with e | body
    · exact .pure hR _
    · dsimp only
      split
      · exact .pure hR _
      · split
        · exact .pure hR _
        · exact .bind hR (hs _) fun _ => .pure hR _

end TransportScript

namespace Rehearsal

variable {b : MockBehavior} {t : TransportScript} {policies : RetryDefaults} {sparse : Bool}

theorem runLens_lawful : runLens.Lawful := fun _ _ => rfl

/-- The uploader of every rehearsal is framed: no engine call and no probe touches the upload,
and sending a body touches it only through the body reader. -/
theorem framed : (uploader b t policies sparse).Framed :=
  have he := Mock.engine_keeps (b := b) Uploader.quiet_frame (fun _ _ => rfl)
  { lawful := runLens_lawful
    createDisk := he.createDisk
    getDisk := he.getDisk
    removeDisk := he.removeDisk
    createTransfer := he.createTransfer
    getTransfer := he.getTransfer
    finalizeTransfer := he.finalizeTransfer
    cancelTransfer := he.cancelTransfer
    listJobs := he.listJobs
    probe := TransportScript.keeps_probe Uploader.quiet_frame (fun _ _ => rfl)
    put := fun url n _ _ refl trans hread =>
      TransportScript.keeps_put (Uploader.lifted_frame refl trans)
        (fun _ => Uploader.Quiet.keeps refl fun _ => rfl) hread url n }

end Rehearsal

end DiskUploader
