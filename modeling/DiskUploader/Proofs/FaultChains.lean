import DiskUploader.Fault.Basic
import DiskUploader.Files.Basic
import DiskUploader.Config.Read

/-!
# Unidentified faults hide no code

Faults are built from fresh ones by wrapping a cause, adding context, classifying and copying. A
cause is a foreign error (an I/O, JSON, HTTP client or settings-file error), a fault, or an I/O
error that carries a fault and shows only that fault's own cause. Wrapping with `unidentified`
takes the best code the cause offers, so a wrapper stays unidentified only when the nearest fault
below it is unidentified or absent.

Along every chain built so, below an unidentified fault every fault is unidentified too. Hence a
fault whose own code is `unidentified` has no other code anywhere in its chain.

A copy of a fault keeps every fault of its chain and reduces every foreign layer to its text. It
therefore answers every question that reads the chain's codes and texts as the original does;
only classification, which also asks what kind of HTTP client error a layer was, can tell them
apart, and only when such an error is in the chain.
-/

namespace DiskUploader

def Unidentified (chain : List Layer) : Prop :=
  ∀ l ∈ chain, ∀ c, l.code? = some c → c = .unidentified

@[simp] theorem Layer.code?_detach (l : Layer) : l.detach.code? = l.code? := by
  cases l <;> rfl

theorem Unidentified.map_detach {chain : List Layer} (h : Unidentified chain) :
    Unidentified (chain.map Layer.detach) := by
  intro l hl c hc
  obtain ⟨l₀, hl₀, rfl⟩ := List.mem_map.1 hl
  exact h l₀ hl₀ c (by simpa using hc)

@[simp] theorem Layer.message_detach (l : Layer) : l.detach.message = l.message := by
  cases l <;> rfl

@[simp] theorem Layer.http?_detach (l : Layer) : l.detach.http? = none := by
  cases l <;> rfl

theorem firstHttp_eq_none {chain : List Layer} (h : ∀ l ∈ chain, l.http? = none) :
    firstHttp chain = none := by
  induction chain with
  | nil => rfl
  | cons l rest ih =>
    simp [firstHttp, h l List.mem_cons_self, ih fun l' hl' => h l' (List.mem_cons_of_mem _ hl')]

theorem chainText_map_detach (chain : List Layer) :
    chainText (chain.map Layer.detach) = chainText chain := by
  simp [chainText, Function.comp_def]

/-- Without an HTTP client error, classification reads only the texts of a chain, and a copy
keeps them. -/
theorem classify_map_detach {chain : List Layer} (h : ∀ l ∈ chain, l.http? = none) :
    classify (chain.map Layer.detach) = classify chain := by
  have h' : ∀ l ∈ chain.map Layer.detach, l.http? = none := by simp
  simp only [classify, firstHttp_eq_none h, firstHttp_eq_none h', messageCode,
    chainText_map_detach]

def Settled : List Layer → Prop
  | [] => True
  | l :: rest => (l.code? = some .unidentified → Unidentified rest) ∧ Settled rest

namespace Settled

@[simp] theorem nil : Settled [] := trivial

@[simp] theorem cons_iff {l : Layer} {rest : List Layer} :
    Settled (l :: rest) ↔ (l.code? = some .unidentified → Unidentified rest) ∧ Settled rest :=
  Iff.rfl

theorem of_foreign {chain : List Layer} (h : ∀ l ∈ chain, l.code? = none) : Settled chain := by
  induction chain with
  | nil => exact nil
  | cons l rest ih =>
    refine ⟨fun hl => ?_, ih fun l' hl' => h l' (List.mem_cons_of_mem _ hl')⟩
    rw [h l List.mem_cons_self] at hl
    cases hl

/-- A settled chain whose nearest fault is unidentified, or that has none, is unidentified
throughout. -/
theorem unidentified {chain : List Layer} (h : Settled chain)
    (hi : inheritedCode chain = none ∨ inheritedCode chain = some .unidentified) :
    Unidentified chain := by
  induction chain with
  | nil => intro l hl; cases hl
  | cons l rest ih =>
    obtain ⟨hhead, hrest⟩ := h
    intro l' hl' c hc
    cases hcode : l.code? with
    | some c₀ =>
      -- the head is the nearest fault, so it is unidentified and seals the rest
      have hc₀ : c₀ = .unidentified := by
        simpa [inheritedCode, hcode] using hi
      subst hc₀
      rcases List.mem_cons.1 hl' with rfl | hl'
      · rw [hcode] at hc
        exact (Option.some.inj hc).symm
      · exact hhead hcode l' hl' c hc
    | none =>
      have hi' : inheritedCode rest = none ∨ inheritedCode rest = some .unidentified := by
        simpa [inheritedCode, hcode] using hi
      rcases List.mem_cons.1 hl' with rfl | hl'
      · rw [hcode] at hc
        cases hc
      · exact ih hrest hi' l' hl' c hc

theorem map_detach {chain : List Layer} (h : Settled chain) : Settled (chain.map Layer.detach) := by
  induction chain with
  | nil => exact nil
  | cons l rest ih =>
    obtain ⟨hhead, hrest⟩ := h
    refine ⟨fun hl => (hhead ?_).map_detach, ih hrest⟩
    simpa using hl

end Settled

theorem messageCode_ne_unidentified (chain : List Layer) :
    messageCode chain ≠ some .unidentified := by
  intro h
  obtain ⟨r, hr, hcode⟩ := Option.map_eq_some_iff.1 h
  have hmem := List.mem_of_find?_eq_some hr
  simp only [messageRules, List.mem_cons, List.not_mem_nil, or_false] at hmem
  rcases hmem with rfl | rfl | rfl | rfl | rfl <;> cases hcode

theorem classify_ne_unidentified (chain : List Layer) : classify chain ≠ some .unidentified := by
  intro h
  dsimp only [classify] at h
  cases hs : (firstHttp chain).bind (fun h => h.1.bind statusRule) with
  | some c =>
    simp only [hs, Option.some.injEq] at h
    subst h
    obtain ⟨x, -, hx⟩ := Option.bind_eq_some_iff.1 hs
    obtain ⟨s, -, hst⟩ := Option.bind_eq_some_iff.1 hx
    unfold statusRule at hst
    split at hst <;> cases hst
  | none =>
    simp only [hs] at h
    cases hm : messageCode chain with
    | some c =>
      simp only [hm, Option.some.injEq] at h
      subst h
      exact messageCode_ne_unidentified chain hm
    | none =>
      simp only [hm] at h
      split at h <;> cases h

/-- A wrapper ends up unidentified only when asked for the best code and the cause offers none
but an unidentified nearest fault. -/
theorem wrapCode_eq_unidentified {cause : List Layer} {c : Code}
    (h : Fault.wrapCode cause c = .unidentified) :
    inheritedCode cause = none ∨ inheritedCode cause = some .unidentified := by
  unfold Fault.wrapCode at h
  split at h
  · cases hc : classify cause with
    | some c' =>
      rw [hc] at h
      exact absurd (by simpa using hc ▸ congrArg some h) (classify_ne_unidentified cause)
    | none =>
      rw [hc] at h
      cases hi : inheritedCode cause with
      | none => exact .inl rfl
      | some c' =>
        rw [hi] at h
        exact .inr (congrArg some h)
  · exact absurd h ‹_›

theorem settled_wrap {cause : List Layer} (h : Settled cause) (c : Code) (m : String) :
    Settled (Fault.wrap cause c m).chain :=
  ⟨fun hc => h.unidentified (wrapCode_eq_unidentified (Option.some.inj hc)), h⟩

namespace Fault

theorem classified_cause (f : Fault) : f.classified.cause = f.cause := by
  unfold classified
  split
  · split <;> rfl
  · rfl

theorem classified_code_eq_unidentified {f : Fault} (h : f.classified.code = .unidentified) :
    f.code = .unidentified := by
  unfold classified at h
  split at h
  · assumption
  · exact h

/-- The faults this library builds: fresh ones, and what wrapping a cause, classifying and
copying make of them. A cause is a foreign chain with no fault in it, the chain of a fault, or
an I/O error carrying a fault. -/
inductive Built : Fault → Prop
  | new (c : Code) (m : String) : Built (.new c m)
  | wrapForeign {chain : List Layer} (h : ∀ l ∈ chain, l.code? = none) (c : Code) (m : String) :
      Built (.wrap chain c m)
  | wrap {f : Fault} (hf : Built f) (c : Code) (m : String) : Built (.wrap f.chain c m)
  | wrapIo {f : Fault} (hf : Built f) (c : Code) (m : String) : Built (.wrap f.throughIo c m)
  | classified {f : Fault} (hf : Built f) : Built f.classified
  | detach {f : Fault} (hf : Built f) : Built f.detach

namespace Built

theorem context {f : Fault} (hf : f.Built) (m : String) : (f.context m).Built := hf.wrap _ m

theorem ofIo_foreign {chain : List Layer} (h : ∀ l ∈ chain, l.code? = none) :
    (Fault.ofIo chain).Built :=
  wrapForeign h _ _

theorem ofIo_carrying {f : Fault} (hf : f.Built) : (Fault.ofIo f.throughIo).Built :=
  hf.wrapIo _ _

theorem ofYaml {text : String} {f : Fault} (h : Settings.ofYaml text = .error f) : f.Built := by
  unfold Settings.ofYaml at h
  split at h
  · cases h
  · cases h
    exact wrapForeign (by simp [Layer.text, Layer.code?]) _ _

theorem settled {f : Fault} (hf : f.Built) : Settled f.chain := by
  induction hf with
  | new c m => exact ⟨fun _ l hl => absurd hl List.not_mem_nil, trivial⟩
  | wrapForeign h c m => exact settled_wrap (Settled.of_foreign h) c m
  | wrap _ c m ih => exact settled_wrap ih c m
  | @wrapIo f _ c m ih =>
    -- the carrier shows the fault's text as a foreign layer above the fault's own cause
    have hio : Settled f.throughIo := ⟨fun h => (by cases h), ih.2⟩
    exact settled_wrap hio c m
  | @classified f _ ih =>
    rw [chain, classified_cause]
    refine ⟨fun hc => ih.1 ?_, ih.2⟩
    simp only [Layer.code?, Option.some.injEq] at hc ⊢
    exact classified_code_eq_unidentified hc
  | detach _ ih => exact ⟨fun hc => (ih.1 hc).map_detach, ih.2.map_detach⟩

end Built

/-- A built fault whose code is `unidentified` has no other code anywhere in its chain, so it
has no code but `unidentified`. -/
theorem Built.unidentified_throughout {e : Fault} (h : e.Built) (hu : e.code = .unidentified) :
    Unidentified e.cause ∧ ∀ c, c ≠ .unidentified → e.has c = false := by
  have hcause : Unidentified e.cause := h.settled.1 (by simp [Layer.code?, hu])
  refine ⟨hcause, fun c hc => ?_⟩
  have hown : (e.code == c) = false := by
    rw [hu]
    exact beq_false_of_ne (Ne.symm hc)
  have hbelow : e.cause.any (·.code? == some c) = false := by
    rw [List.any_eq_false]
    intro l hl hlc
    have := hcause l hl c (by simpa using hlc)
    exact hc this
  simp [has, hown, hbelow]

/-- A connection failure carried by an I/O error is hidden: the I/O fault made from it, with a
context on top, is unidentified and has no other code. -/
theorem Built.io_carrier_unidentified :
    let e := (Fault.ofIo (Fault.new .connection "connection reset by peer").throughIo).context
      "failed to read image"
    e.Built ∧ e.code = .unidentified ∧
      (Unidentified e.cause ∧ ∀ c, c ≠ .unidentified → e.has c = false) :=
  have hb := (Built.ofIo_carrying (Built.new .connection "connection reset by peer")).context
    "failed to read image"
  have hu : ((Fault.ofIo (Fault.new .connection "connection reset by peer").throughIo).context
      "failed to read image").code = .unidentified := by decide
  ⟨hb, hu, Built.unidentified_throughout hb hu⟩

theorem detach_chain (e : Fault) : e.detach.chain = e.chain.map Layer.detach := rfl

/-- A copy of a fault has its code, message, permanence and full message, and has exactly the
codes it has. It classifies alike when no HTTP client error is in the chain: the copy keeps such
an error's text but not its status or kind. -/
theorem detach_faithful (e : Fault) :
    e.detach.code = e.code ∧ e.detach.message = e.message ∧ e.detach.permanent = e.permanent ∧
      e.detach.fullMessage = e.fullMessage ∧ (∀ c, e.detach.has c = e.has c) ∧
      ((∀ l ∈ e.chain, l.http? = none) → classify e.detach.chain = classify e.chain) := by
  refine ⟨rfl, rfl, rfl, ?_, fun c => ?_, fun h => ?_⟩
  · simp [fullMessage, detach, Function.comp_def]
  · simp [has, detach, List.any_map, Function.comp_def]
  · rw [detach_chain]
    exact classify_map_detach h

/-- A copy of the I/O fault that carries a connection failure classifies as the fault does. -/
theorem detach_io_carrier_classifies :
    let e := (Fault.ofIo (Fault.new .connection "connection reset by peer").throughIo).context
      "failed to read image"
    (∀ l ∈ e.chain, l.http? = none) ∧ classify e.detach.chain = classify e.chain :=
  have hno : ∀ l ∈ ((Fault.ofIo (Fault.new .connection "connection reset by peer").throughIo).context
      "failed to read image").chain, l.http? = none := by decide
  ⟨hno, (detach_faithful _).2.2.2.2.2 hno⟩

end Fault

end DiskUploader
