import Mathlib.Data.List.Find
import Mathlib.Data.List.Perm.Basic
import DiskUploader.Proofs.FaultChains

/-!
# Classifying a chain layer by layer

Classification matches the message rules against one text: the messages of the whole chain
joined by line breaks and lower-cased. No pattern holds a line break, lower-casing maps a line
break to itself, and a line break is no letter or digit. So a pattern never straddles two layers,
and a number stands as a whole word in the joined text exactly when it does so in one layer.

Without an HTTP client error in the chain, classification is therefore the first rule that some
single layer matches on its own, and it does not depend on the order of the layers, nor on layers
that match no rule. Adding a context to a fault classifies the fault's whole chain: after a run
of contexts the code is the first rule matched by a layer of the fault or by a context message
below the newest one, else the fault's own code.
-/

namespace DiskUploader

namespace Text

theorem fold_append (s t : String) : fold (s ++ t) = fold s ++ fold t := by
  simp [fold, String.toList_append]

/-- A prefix without a line break of a text broken by a line break is a prefix of its first
part. -/
theorem isPrefixOf_join {pat : List Char} (hn : '\n' ∉ pat) (x y : List Char) :
    pat.isPrefixOf (x ++ '\n' :: y) = pat.isPrefixOf x := by
  induction x generalizing pat with
  | nil =>
    cases pat with
    | nil => rfl
    | cons p ps =>
      have hp : p ≠ '\n' := fun e => hn (e ▸ List.mem_cons_self)
      simp [List.isPrefixOf_cons_cons, hp]
  | cons c x ih =>
    cases pat with
    | nil => rfl
    | cons p ps =>
      have hps : '\n' ∉ ps := fun m => hn (List.mem_cons_of_mem _ m)
      simp only [List.cons_append, List.isPrefixOf_cons_cons, ih hps]

/-- A pattern without a line break occurs in two texts joined by one exactly when it occurs in
one of them. -/
theorem occursIn_join {pat : List Char} (hp : pat ≠ []) (hn : '\n' ∉ pat) (x y : List Char) :
    occursIn pat (x ++ '\n' :: y) = (occursIn pat x || occursIn pat y) := by
  induction x with
  | nil =>
    have hpre : pat.isPrefixOf ('\n' :: y) = false := by
      rw [← List.nil_append ('\n' :: y), isPrefixOf_join hn]
      cases pat with
      | nil => exact absurd rfl hp
      | cons p ps => rfl
    simp [occursIn, hpre, List.isEmpty_iff, hp]
  | cons c x ih =>
    simp only [List.cons_append, occursIn]
    rw [← List.cons_append, isPrefixOf_join hn, ih, Bool.or_assoc]

theorem words_join (x y : List Char) : words (x ++ '\n' :: y) = words x ++ words y := by
  induction x with
  | nil =>
    obtain ⟨w, ws, hw⟩ := List.exists_cons_of_ne_nil (words_ne_nil y)
    simp [words, hw]
  | cons c x ih =>
    obtain ⟨w, ws, hw⟩ := List.exists_cons_of_ne_nil (words_ne_nil x)
    simp only [List.cons_append, words, ih, hw]
    split <;> rfl

def Plain (pat : String) : Prop := pat.toList ≠ [] ∧ '\n' ∉ pat.toList

instance : DecidablePred Plain := fun _ => inferInstanceAs (Decidable (_ ∧ _))

theorem mentions_join {pat : String} (hp : '\n' ∉ pat.toList) (x y : List Char) :
    mentions (x ++ '\n' :: y) pat = (mentions x pat || mentions y pat) := by
  unfold mentions
  split
  · rfl
  · rename_i c cs hcs
    rw [hcs] at hp
    split
    · rw [words_join, List.contains_append]
    · exact occursIn_join (List.cons_ne_nil c cs) hp x y

theorem mentions_nil {pat : String} (hp : pat.toList ≠ []) : mentions [] pat = false := by
  unfold mentions
  split
  · exact absurd ‹_› hp
  · split <;> simp [words, occursIn]

/-- A plain pattern is mentioned in texts joined by line breaks and lower-cased exactly when it
is mentioned in one of them lower-cased. -/
theorem mentions_fold_intercalate {pat : String} (hp : Plain pat) (ms : List String) :
    mentions (fold ("\n".intercalate ms)) pat = ms.any fun m => mentions (fold m) pat := by
  induction ms with
  | nil => simpa [fold] using mentions_nil hp.1
  | cons m ms ih =>
    cases ms with
    | nil => simp
    | cons m' ms =>
      have hnl : fold "\n" = ['\n'] := by decide
      rw [String.intercalate_cons_cons, fold_append, fold_append, hnl, List.append_assoc,
        List.singleton_append, mentions_join hp.2, ih]
      simp only [List.any_cons]

end Text

namespace Rule

/-- The rule matches one text: one of its patterns is mentioned in the text lower-cased. -/
def matchesText (r : Rule) (text : String) : Bool := r.patterns.any (Text.mentions (Text.fold text))

end Rule

def firstRuleOf (texts : List String) : Option Code :=
  (messageRules.find? fun r => texts.any r.matchesText).map Rule.code

theorem messageRules_plain : ∀ r ∈ messageRules, ∀ p ∈ r.patterns, Text.Plain p := by
  decide

theorem messageCode_eq_firstRuleOf (chain : List Layer) :
    messageCode chain = firstRuleOf (chain.map Layer.message) := by
  unfold messageCode firstRuleOf chainText
  dsimp only
  congr 1
  refine List.find?_congr fun r hr => ?_
  have hpat : ∀ p ∈ r.patterns,
      Text.mentions (Text.fold ("\n".intercalate (chain.map Layer.message))) p =
        (chain.map Layer.message).any fun m => Text.mentions (Text.fold m) p :=
    fun p hp => Text.mentions_fold_intercalate (messageRules_plain r hr p hp) _
  rw [Bool.eq_iff_iff, List.any_eq_true, List.any_eq_true]
  simp only [Rule.matchesText, List.any_eq_true]
  -- a pattern mentioned in the joined text is mentioned in one layer, and back
  constructor
  · rintro ⟨p, hp, hm⟩
    obtain ⟨m, hm, hpm⟩ := List.any_eq_true.1 ((hpat p hp).symm.trans hm)
    exact ⟨m, hm, p, hp, hpm⟩
  · rintro ⟨m, hm, p, hp, hpm⟩
    exact ⟨p, hp, (hpat p hp).trans (List.any_eq_true.2 ⟨m, hm, hpm⟩)⟩

theorem classify_eq_messageCode {chain : List Layer} (h : ∀ l ∈ chain, l.http? = none) :
    classify chain = messageCode chain := by
  simp only [classify, firstHttp_eq_none h, Option.bind_none]
  cases messageCode chain <;> rfl

theorem classify_eq_firstRuleOf {chain : List Layer} (h : ∀ l ∈ chain, l.http? = none) :
    classify chain = firstRuleOf (chain.map Layer.message) := by
  rw [classify_eq_messageCode h, messageCode_eq_firstRuleOf]

theorem firstRuleOf_eq_none_iff {texts : List String} :
    firstRuleOf texts = none ↔ ∀ t ∈ texts, ∀ r ∈ messageRules, r.matchesText t = false := by
  simp only [firstRuleOf, Option.map_eq_none_iff, List.find?_eq_none, List.any_eq_true]
  constructor
  · intro h t ht r hr
    simpa using fun h' => h r hr ⟨t, ht, h'⟩
  · rintro h r hr ⟨t, ht, h'⟩
    simp [h t ht r hr] at h'

theorem firstRuleOf_getD_append (ts us : List String) (c : Code) :
    (firstRuleOf (ts ++ us)).getD ((firstRuleOf ts).getD c) = (firstRuleOf (ts ++ us)).getD c := by
  cases h : firstRuleOf (ts ++ us) with
  | some c' => rfl
  | none =>
    have hts : firstRuleOf ts = none := firstRuleOf_eq_none_iff.2 fun t ht =>
      firstRuleOf_eq_none_iff.1 h t (List.mem_append_left _ ht)
    rw [hts]
    rfl

theorem firstRuleOf_perm {ts us : List String} (h : ts.Perm us) :
    firstRuleOf ts = firstRuleOf us := by
  simp only [firstRuleOf, List.Perm.any_eq h]

theorem firstRuleOf_append_silent {ts us : List String}
    (hu : ∀ u ∈ us, ∀ r ∈ messageRules, r.matchesText u = false) :
    firstRuleOf (ts ++ us) = firstRuleOf ts := by
  unfold firstRuleOf
  congr 1
  refine List.find?_congr fun r hr => ?_
  have hus : us.any r.matchesText = false :=
    List.any_eq_false.2 fun u hu' => by simpa using hu u hu' r hr
  rw [List.any_append, hus, Bool.or_false]

/-- Without an HTTP client error in the chain, classification is the first message rule that a
single layer matches, lower-cased on its own; it does not depend on the order of the layers, and
layers that match no rule do not change it. -/
theorem classify_by_layers :
    (∀ chain : List Layer, (∀ l ∈ chain, l.http? = none) →
        classify chain = firstRuleOf (chain.map Layer.message)) ∧
    (∀ chain chain' : List Layer, chain.Perm chain' → (∀ l ∈ chain, l.http? = none) →
        classify chain = classify chain') ∧
    (∀ pre extra post : List Layer, (∀ l ∈ pre ++ extra ++ post, l.http? = none) →
        (∀ l ∈ extra, ∀ r ∈ messageRules, r.matchesText l.message = false) →
        classify (pre ++ extra ++ post) = classify (pre ++ post)) := by
  refine ⟨fun _ => classify_eq_firstRuleOf, fun chain chain' hp h => ?_,
    fun pre extra post h hx => ?_⟩
  · rw [classify_eq_firstRuleOf h, classify_eq_firstRuleOf fun l hl => h l (hp.mem_iff.2 hl)]
    exact firstRuleOf_perm (hp.map _)
  · -- the silent layers move to the end, where they change nothing
    have hperm : (pre ++ extra ++ post).Perm (pre ++ post ++ extra) := by
      rw [List.append_assoc, List.append_assoc]
      exact List.Perm.append_left pre List.perm_append_comm
    have h' : ∀ l ∈ pre ++ post, l.http? = none := fun l hl =>
      h l (hperm.mem_iff.2 (List.mem_append_left _ hl))
    rw [classify_eq_firstRuleOf h, classify_eq_firstRuleOf h', firstRuleOf_perm (hperm.map _),
      List.map_append, firstRuleOf_append_silent]
    intro u hu
    obtain ⟨l, hl, rfl⟩ := List.mem_map.1 hu
    exact hx l hl

/-- A chain that reads "TLS handshake failed" over "disk 1234 not found" classifies as a TLS
error whichever layer is on top, and a layer matching no rule between them changes nothing. -/
theorem classify_layers_tls_over_not_found :
    let tls := Layer.text "TLS handshake failed"
    let missing := Layer.fault .notFound "disk 1234 not found"
    let quiet := Layer.text "while uploading"
    classify [tls, missing] = classify [missing, tls] ∧
      classify ([tls] ++ [quiet] ++ [missing]) = classify ([tls] ++ [missing]) ∧
      classify [missing, tls] = some .tlsError :=
  ⟨classify_by_layers.2.1 _ _ (List.Perm.swap _ _ []) (by decide),
    classify_by_layers.2.2 [_] [_] [_] (by decide) (by decide),
    by decide⟩

namespace Fault

theorem code_context {f : Fault} (hf : ∀ l ∈ f.chain, l.http? = none) (m : String) :
    (f.context m).code = (firstRuleOf (f.chain.map Layer.message)).getD f.code := by
  have hc : classify f.chain = firstRuleOf (f.chain.map Layer.message) := classify_eq_firstRuleOf hf
  have hi : inheritedCode f.chain = some f.code := rfl
  show wrapCode f.chain .unidentified = _
  rw [wrapCode, if_pos rfl, hc, hi]
  cases firstRuleOf _ <;> rfl

theorem context_http {f : Fault} (hf : ∀ l ∈ f.chain, l.http? = none) (m : String) :
    ∀ l ∈ (f.context m).chain, l.http? = none := by
  intro l hl
  rcases List.mem_cons.1 hl with rfl | hl
  · rfl
  · exact hf l hl

/-- After contexts `m₁ … mₖ` on a fault with no HTTP client error in its chain, the code is the
first rule matched by a layer of the fault or by one of `m₁ … mₖ₋₁`, else the fault's own code:
the newest message is not yet part of the cause it classifies. -/
theorem code_after_contexts (e : Fault) (he : ∀ l ∈ e.chain, l.http? = none) (ms : List String)
    (last : String) :
    ((ms ++ [last]).foldl context e).code =
      (firstRuleOf (e.chain.map Layer.message ++ ms)).getD e.code := by
  -- by induction on the contexts below the newest, the fault growing by one context each time
  induction ms generalizing e with
  | nil => simpa using code_context he last
  | cons m ms ih =>
    have hmessages : (e.context m).chain.map Layer.message = m :: e.chain.map Layer.message := rfl
    rw [List.cons_append, List.foldl_cons, ih _ (context_http he m), code_context he m, hmessages,
      List.cons_append, firstRuleOf_perm List.perm_middle.symm, firstRuleOf_getD_append]

/-- Contexts "certificate expired" and then "access denied" on a conflict give a TLS error: the
newest message would match the earlier access rule, but it is not yet classified. -/
theorem code_after_contexts_skips_newest :
    let e := Fault.new .conflict "disk is busy"
    (∀ l ∈ e.chain, l.http? = none) ∧
      (["certificate expired", "access denied"].foldl context e).code = .tlsError :=
  ⟨by decide,
    (code_after_contexts (Fault.new .conflict "disk is busy") (by decide) ["certificate expired"]
      "access denied").trans (by decide)⟩

end Fault

end DiskUploader
