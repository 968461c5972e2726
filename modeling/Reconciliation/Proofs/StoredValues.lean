import Reconciliation.Proofs.KindLaws
import Reconciliation.Proofs.Utf8Laws

/-! # What the server holds of a secret

A secret is written with texts and read back with bytes: the server folds the texts into the bytes, where they
win (`Secret.folded`). A mutator sees the same values before and after that, since texts survive their bytes,
so it settles although the secret it meets again has another shape than the one it left.

What a mutator sees is not all, though. Bytes that are no text are read with replacements, and where that text
is the desired one the rule for all texts takes them for it and leaves them. The rule for defaults only looks
whether there is a value, so it leaves all bytes alone that are there.
-/

namespace Reconciliation.Secret

open Text.Utf8

variable {secret existing desired : Secret} {key name text : String}

/-- The bytes that the server holds once it has stored a secret: those of the texts, and the others that are
there. -/
def bytes (secret : Secret) : SortedMap String (List UInt8) :=
  secret.stored.overriddenBy (secret.texts.mapValues encode)

/-- The secret as it is read back once the server has stored it. -/
def folded (secret : Secret) : Secret :=
  { secret with data := if secret.texts = .empty then secret.data else some secret.bytes, stringData := none }

theorem get?_bytes (secret : Secret) (key : String) :
    secret.bytes.get? key = ((secret.texts.get? key).map encode).or (secret.stored.get? key) := by
  rw [bytes, SortedMap.get?_overriddenBy, SortedMap.get?_mapValues]

theorem stored_folded (secret : Secret) : secret.folded.stored = secret.bytes := by
  by_cases none : secret.texts = .empty
  · apply SortedMap.ext_get?
    intro key
    simp [get?_bytes, folded, stored, none]
  · simp [folded, stored, none]

/-- A value is read as the bytes that the server holds for it. -/
theorem value?_eq_bytes (secret : Secret) (key : String) :
    secret.value? key = (secret.bytes.get? key).map decodeLossy := by
  rw [value?, get?_bytes, Option.map_or, Option.map_map]
  have back : decodeLossy ∘ encode = id := funext decodeLossy_encode
  rw [back, Option.map_id]
  rfl

/-- Folding the texts into the bytes changes no value. -/
theorem value?_folded (secret : Secret) (key : String) : secret.folded.value? key = secret.value? key := by
  rw [value?_eq_bytes secret, ← stored_folded]
  rfl

theorem values_folded (secret : Secret) : secret.folded.values = secret.values := by
  apply SortedMap.ext_get?
  intro key
  rw [get?_values, get?_values, value?_folded]

/-- Nothing but the texts is edited. -/
theorem addText_spares (name text : String) (secret : Secret) :
    (addText name text secret).value =
      { secret with stringData := (addText name text secret).value.stringData } := by
  rw [addText]
  split <;> rfl

theorem stored_addText (name text : String) (secret : Secret) :
    (addText name text secret).value.stored = secret.stored := by
  rw [addText_spares]
  rfl

theorem get?_texts_addText (name text : String) (secret : Secret) (key : String) :
    (addText name text secret).value.texts.get? key =
      (secret.texts.get? key).or
        (if secret.stored.contains key then none else if name = key then some text else none) := by
  rw [addText, isSome_value?]
  split
  · next present =>
    rw [Edit.value_keep]
    by_cases here : name = key
    · subst here
      rcases Bool.or_eq_true_iff.mp present with texts | stored
      · obtain ⟨old, found⟩ := Option.isSome_iff_exists.mp texts
        rw [found, Option.some_or]
      · rw [if_pos stored, Option.or_none]
    · rw [if_neg here, ite_self, Option.or_none]
  · next absent =>
    obtain ⟨texts, stored⟩ := Bool.or_eq_false_iff.mp (Bool.eq_false_iff.mpr absent)
    by_cases here : name = key
    · subst here
      have nothing : secret.texts.get? name = none :=
        Option.isNone_iff_eq_none.mp (Option.isSome_eq_false_iff.mp texts)
      rw [stored, nothing, Option.none_or, if_neg Bool.false_ne_true, if_pos rfl]
      exact SortedMap.get?_insert_self _ name text
    · rw [if_neg here, ite_self, Option.or_none]
      exact SortedMap.get?_insert_of_ne _ here text

/-- A text is added where it is desired and there are neither a text nor bytes. -/
theorem get?_texts_addMissing (existing desired : Secret) (key : String) :
    (addMissing existing desired).value.texts.get? key =
      (existing.texts.get? key).or
        (if existing.stored.contains key then none else desired.texts.get? key) := by
  rw [addMissing]
  obtain ⟨entries, sorted⟩ := desired.texts
  -- later entries meet the texts that earlier ones have added
  induction entries generalizing existing with
  | nil =>
    have nothing : (⟨[], sorted⟩ : StringMap).get? key = none := rfl
    rw [nothing, ite_self, Option.or_none]
    rfl
  | cons entry rest ih =>
    have first := congrArg (fun edit => edit.value.texts.get? key)
      (Edit.foldl_bind_cons (fun entry => addText entry.1 entry.2) entry rest existing)
    have later := ih (addText entry.1 entry.2 existing).value (List.pairwise_cons.mp sorted).2
    refine first.trans (later.trans ?_)
    rw [get?_texts_addText, stored_addText, SortedMap.get?_cons, Option.or_assoc]
    cases existing.stored.contains key with
    | true => rfl
    | false => by_cases here : entry.1 = key <;> simp [here]

theorem addMissing_spares (existing desired : Secret) :
    (addMissing existing desired).value =
      { existing with stringData := (addMissing existing desired).value.stringData } := by
  refine Edit.foldl_keeps (fun secret : Secret => secret = { existing with stringData := secret.stringData })
    (fun entry _ secret same => ?_) rfl
  have text := addText_spares entry.1 entry.2 secret
  exact text.trans (congrArg (fun spared : Secret =>
    { spared with stringData := (addText entry.1 entry.2 secret).value.stringData }) same)

/-- A text is desired under the key, and there are neither a text nor bytes. -/
def Lacks (existing desired : Secret) (key : String) : Prop :=
  desired.texts.contains key = true ∧ existing.texts.contains key = false ∧ existing.stored.contains key = false

theorem isSome_value?_of_lacks (lacks : Lacks existing desired key) : (existing.value? key).isSome = false := by
  rw [isSome_value?, lacks.2.1, lacks.2.2]
  rfl

theorem isSome_value?_of_not_lacks (spared : ¬ Lacks existing desired key)
    (wanted : desired.texts.get? key = some text) : (existing.value? key).isSome = true := by
  apply eq_true_of_ne_false
  intro missing
  rw [isSome_value?, Bool.or_eq_false_iff] at missing
  exact spared ⟨congrArg Option.isSome wanted, missing⟩

theorem get?_texts_of_lacks (lacks : Lacks existing desired key) :
    (addMissing existing desired).value.texts.get? key = desired.texts.get? key := by
  have nothing : existing.texts.get? key = none :=
    Option.isNone_iff_eq_none.mp (Option.isSome_eq_false_iff.mp lacks.2.1)
  rw [get?_texts_addMissing, nothing, lacks.2.2, Option.none_or, if_neg Bool.false_ne_true]

theorem get?_texts_of_not_lacks (spared : ¬ Lacks existing desired key) :
    (addMissing existing desired).value.texts.get? key = existing.texts.get? key := by
  rw [get?_texts_addMissing]
  cases found : existing.texts.get? key with
  | some text => rfl
  | none =>
    cases stored : existing.stored.contains key with
    | true => rfl
    | false =>
      cases wanted : desired.texts.get? key with
      | none => rfl
      | some text =>
        have present := isSome_value?_of_not_lacks spared wanted
        rw [isSome_value?, SortedMap.contains_eq_isSome, found, stored] at present
        cases present

theorem changed_addMissing_iff :
    (addMissing existing desired).changed = true ↔ ∃ key, Lacks existing desired key := by
  constructor
  · intro changed
    apply Classical.byContradiction
    intro complete
    have unchanged := changed_addMissing_eq_false_iff.mpr fun key _ wanted =>
      isSome_value?_of_not_lacks (fun lacks => complete ⟨key, lacks⟩) wanted
    exact Bool.false_ne_true (unchanged.symm.trans changed)
  · rintro ⟨key, lacks⟩
    apply eq_true_of_ne_false
    intro unchanged
    obtain ⟨text, wanted⟩ := Option.isSome_iff_exists.mp lacks.1
    have present := changed_addMissing_eq_false_iff.mp unchanged key text wanted
    exact Bool.false_ne_true ((isSome_value?_of_lacks lacks).symm.trans present)

/-- What a rule wants of the values, it has got once it has run. -/
theorem Rule.wants_after (rule : Rule) (existing desired : Object Secret) :
    rule.Wants (rule.mutate existing desired).object.content desired.content := by
  cases rule with
  | defaultsOnly =>
    intro key text wanted
    change ((addMissing existing.content desired.content).value.value? key).isSome = true
    by_cases lacks : Lacks existing.content desired.content key
    · rw [value?, get?_texts_of_lacks lacks, wanted]
      rfl
    · have present := isSome_value?_of_not_lacks lacks wanted
      rw [value?_addMissing present]
      exact present
  | key name =>
    change (followKey name existing.content desired.content).value.value? name = _
    rw [followKey]
    split
    · next same => exact same
    · exact value?_setText_self ..
  | stringData => exact values_followTexts existing.content desired.content

theorem Rule.wants_folded {rule : Rule} : rule.Wants secret.folded desired ↔ rule.Wants secret desired := by
  cases rule with
  | defaultsOnly => simp only [Wants, value?_folded]
  | key name => simp only [Wants, value?_folded]
  | stringData => simp only [Wants, values_folded]

theorem Rule.mutate_of_wants {rule : Rule} {existing desired : Object Secret}
    (wants : rule.Wants existing.content desired.content) : rule.mutate existing desired = .done (.keep existing) :=
  Mutation.ext (object_of_quiet (quiet_iff.mpr wants)) (quiet_iff.mpr wants)

/-- After a rule has run, it finds nothing to do, neither in the secret that it has left nor in the one that is
read back once the server has stored that. -/
theorem settled_across_folding (rule : Rule) (existing desired : Object Secret) :
    let mutation := rule.mutate existing desired
    let after := mutation.object
    let readBack := after.withContent after.content.folded
    mutation.Succeeds ∧ rule.mutate readBack desired = .done (.keep readBack) ∧
      rule.mutate after desired = .done (.keep after) := by
  intro mutation after readBack
  have wants : rule.Wants after.content desired.content := rule.wants_after existing desired
  exact ⟨rule.succeeds existing desired, Rule.mutate_of_wants (Rule.wants_folded.mpr wants),
    Rule.mutate_of_wants wants⟩

/-- After the rule for all texts the server holds exactly their bytes if and only if the rule has changed the secret
or all bytes that were there are those of texts. -/
theorem bytes_followTexts_iff :
    (followTexts existing desired).value.bytes = desired.texts.mapValues encode ↔
      (followTexts existing desired).changed = true ∨
        ∀ key bytes, existing.bytes.get? key = some bytes → IsText bytes := by
  by_cases follows : existing.values = desired.texts
  · have kept : followTexts existing desired = .keep existing := if_pos follows
    rw [kept, Edit.value_keep, Edit.changed_keep]
    constructor
    · intro exactly
      refine .inr fun key bytes there => ?_
      rw [exactly, SortedMap.get?_mapValues] at there
      obtain ⟨text, -, written⟩ := Option.map_eq_some_iff.mp there
      exact ⟨text, written⟩
    · intro proper
      have proper := proper.resolve_left Bool.false_ne_true
      apply SortedMap.ext_get?
      intro key
      rw [SortedMap.get?_mapValues, ← follows, get?_values, value?_eq_bytes, Option.map_map]
      cases there : existing.bytes.get? key with
      | none => rfl
      | some bytes => exact congrArg some (isText_iff.mp (proper key bytes there)).symm
  · have changed : followTexts existing desired =
        ⟨{ existing with data := none, stringData := some desired.texts }, true⟩ := if_neg follows
    refine iff_of_true ?_ (.inl (congrArg Edit.changed changed))
    rw [changed]
    apply SortedMap.ext_get?
    intro key
    rw [get?_bytes, SortedMap.get?_mapValues]
    exact Option.or_none

/-- The values become the desired texts, and what the server then holds under a key reads as the desired text and
is exactly its bytes if no replacement is among its characters. It holds exactly the bytes of all texts if and only
if the rule has changed the secret or all bytes that were there are those of texts. -/
theorem bytes_read_as_texts (existing desired : Object Secret) :
    let mutation := Rule.stringData.mutate existing desired
    let held := mutation.object.content.bytes
    let wanted := desired.content.texts
    mutation.Succeeds ∧ (∀ key, held.contains key = wanted.contains key) ∧
      (∀ key, (held.get? key).map decodeLossy = wanted.get? key) ∧
      (∀ key text, wanted.get? key = some text → replacement ∉ text.toList →
        held.get? key = some (encode text)) ∧
      (held = wanted.mapValues encode ↔
        mutation.outcome = .ok true ∨
          ∀ key bytes, existing.content.bytes.get? key = some bytes → IsText bytes) := by
  intro mutation held wanted
  have reads (key : String) : (held.get? key).map decodeLossy = wanted.get? key := by
    have follows : mutation.object.content.values = wanted := values_followTexts existing.content desired.content
    rw [← follows, get?_values, value?_eq_bytes]
  refine ⟨⟨_, rfl⟩, fun key => ?_, reads, fun key text desires clean => ?_, ?_⟩
  · rw [SortedMap.contains_eq_isSome, SortedMap.contains_eq_isSome, ← reads key, Option.isSome_map]
  · obtain ⟨bytes, there, read⟩ := Option.map_eq_some_iff.mp ((reads key).trans desires)
    rw [← read] at clean
    rw [there, ← read, encode_decodeLossy clean]
  · have reported : mutation.outcome = .ok true ↔
        (followTexts existing.content desired.content).changed = true := ⟨Except.ok.inj, congrArg Except.ok⟩
    rw [reported]
    exact bytes_followTexts_iff

/-- A secret with a name. -/
def called (name : String) (content : Secret) : Object Secret := ⟨{ name := some name }, content⟩

/-- Bytes that read as the desired text stay where they are, and they are its bytes. -/
theorem bytes_read_as_texts_of_accent :
    let existing := called "web" { data := some (.ofList [("place", [0x63, 0x61, 0x66, 0xC3, 0xA9])]) }
    let desired := called "web" { stringData := some (.ofList [("place", "caf\u00E9")]) }
    let mutation := Rule.stringData.mutate existing desired
    mutation.outcome = .ok false ∧ desired.content.texts.get? "place" = some "caf\u00E9" ∧
      mutation.object.content.bytes.get? "place" = some (encode "caf\u00E9") := by
  intro existing desired mutation
  have unchanged : (followTexts existing.content desired.content).changed = false := by decide +kernel
  have wanted : desired.content.texts.get? "place" = some "caf\u00E9" := by decide +kernel
  obtain ⟨-, -, -, exactly, -⟩ := bytes_read_as_texts existing desired
  exact ⟨congrArg Except.ok unchanged, wanted, exactly "place" "caf\u00E9" wanted (by decide +kernel)⟩

/-- Bytes that are no text are read as the desired replacement, so they stay. -/
theorem replaced_bytes_stay :
    let existing := called "web" { data := some (.ofList [("token", [0xFF])]) }
    let desired := called "web" { stringData := some (.ofList [("token", "\uFFFD")]) }
    let mutation := Rule.stringData.mutate existing desired
    mutation.outcome = .ok false ∧ desired.content.texts.get? "token" = some "\uFFFD" ∧
      mutation.object.content.bytes.get? "token" = some [0xFF] ∧ encode "\uFFFD" = [0xEF, 0xBF, 0xBD] ∧
      ¬ ∀ key text, desired.content.texts.get? key = some text →
        mutation.object.content.bytes.get? key = some (encode text) := by
  intro existing desired mutation
  have holds : mutation.object.content.bytes.get? "token" = some [0xFF] := by decide +kernel
  have wanted : desired.content.texts.get? "token" = some "\uFFFD" := by decide +kernel
  have written : encode "\uFFFD" = [0xEF, 0xBF, 0xBD] := by decide +kernel
  have unchanged : (followTexts existing.content desired.content).changed = false := by decide +kernel
  refine ⟨congrArg Except.ok unchanged, wanted, holds, written, fun exactly => ?_⟩
  have same := (exactly "token" "\uFFFD" wanted).symm.trans holds
  rw [written] at same
  exact absurd same (by decide)

/-- Nothing but texts is added, where they are desired and there is no value. So what the server holds under a key
stays the same bytes, whatever they are, if there was anything before. -/
theorem defaults_spare_values (existing desired : Object Secret) :
    let mutation := Rule.defaultsOnly.mutate existing desired
    let before := existing.content
    let after := mutation.object.content
    let wanted := desired.content.texts
    (∃ changed, mutation.outcome = .ok changed ∧ (changed = true ↔ ∃ key, Lacks before desired.content key)) ∧
      mutation.object = existing.withContent { before with stringData := after.stringData } ∧
      (∀ key, Lacks before desired.content key → after.texts.get? key = wanted.get? key) ∧
      (∀ key, ¬ Lacks before desired.content key → after.texts.get? key = before.texts.get? key) ∧
      ((∀ key, ¬ Lacks before desired.content key) → mutation.object = existing) ∧
      (∀ key, before.bytes.contains key = true → after.bytes.get? key = before.bytes.get? key) := by
  intro mutation before after wanted
  have spares := addMissing_spares before desired.content
  refine ⟨⟨_, rfl, changed_addMissing_iff⟩, congrArg existing.withContent spares,
    fun key => get?_texts_of_lacks, fun key => get?_texts_of_not_lacks, fun complete => ?_, fun key present => ?_⟩
  · have kept := addMissing_eq_keep fun key _ desires => isSome_value?_of_not_lacks (complete key) desires
    exact congrArg (fun edit => existing.withContent edit.value) kept
  · rw [SortedMap.contains_eq_isSome, ← Option.isSome_map, ← value?_eq_bytes] at present
    have spared : ¬ Lacks before desired.content key := fun lacks =>
      Bool.false_ne_true ((isSome_value?_of_lacks lacks).symm.trans present)
    have texts : after.texts.get? key = before.texts.get? key := get?_texts_of_not_lacks spared
    have stored := congrArg Secret.stored spares
    change after.stored = before.stored at stored
    rw [get?_bytes, get?_bytes, texts, stored]

/-- A password of bytes that are no text is kept, and so is a user that is not the desired one. The token is added. -/
theorem defaults_spare_values_of_password :
    let existing := called "web"
      { data := some (.ofList [("password", [0xFF, 0x00])]), stringData := some (.ofList [("user", "root")]) }
    let desired := called "web"
      { stringData := some (.ofList [("password", "generated"), ("token", "abc"), ("user", "admin")]) }
    let after := (Rule.defaultsOnly.mutate existing desired).object.content
    Lacks existing.content desired.content "token" ∧ after.texts.get? "token" = some "abc" ∧
      ¬ Lacks existing.content desired.content "user" ∧ after.texts.get? "user" = some "root" ∧
      existing.content.bytes.contains "password" = true ∧ after.bytes.get? "password" = some [0xFF, 0x00] := by
  intro existing desired after
  have lacks : Lacks existing.content desired.content "token" :=
    ⟨by decide +kernel, by decide +kernel, by decide +kernel⟩
  have spared : ¬ Lacks existing.content desired.content "user" := fun lacks => absurd lacks.2.1 (by decide +kernel)
  have present : existing.content.bytes.contains "password" = true := by decide +kernel
  obtain ⟨-, -, added, kept, -, held⟩ := defaults_spare_values existing desired
  refine ⟨lacks, (added "token" lacks).trans ?_, spared, (kept "user" spared).trans ?_, present,
    (held "password" present).trans ?_⟩
  · decide +kernel
  · decide +kernel
  · decide +kernel

end Reconciliation.Secret
