import GadgetGuard.Config.Defaults
import GadgetGuard.Proofs.Config.Lawful
/-!
# Completed configurations

Every section of a configuration is a lawful record, and so is the whole.  A value therefore
reads the same before and after its defaults were filled in, and what is shown of a
configuration are the settings in effect.
-/

namespace GadgetGuard.Config

open Config.Field (required required_lawful optional_lawful required_determines
  optional_determines)
open Config.Format (text_lawful flag_lawful word16_lawful word64_lawful listOf_lawful)

/-! ## The sections -/

theorem LogFormat.choice_lawful : LogFormat.choice.Lawful := by
  refine Format.choice_lawful fun content => ?_
  cases content with
  | plaintext => rfl
  | json => rfl

theorem Server.record_lawful : Server.record.Lawful where
  nodup_names := by decide
  fields := by
    simp only [Server.record, List.forall_mem_cons]
    refine ⟨required_lawful text_lawful (fun _ _ => rfl) ?_,
      required_lawful word16_lawful (fun _ _ => rfl) ?_,
      required_lawful flag_lawful (fun _ _ => rfl) ?_, List.forall_mem_nil _⟩
    all_goals simp [required]
  ext :=
    Record.ext_of_determines (.cons (required_determines text_lawful) <|
      .cons (required_determines word16_lawful) <|
      .cons (required_determines flag_lawful) .nil) fun _ _ => rfl

theorem Domain.record_lawful : Domain.record.Lawful where
  nodup_names := by decide
  fields := by
    simp only [Domain.record, List.forall_mem_cons]
    refine ⟨required_lawful flag_lawful (fun _ _ => rfl) ?_,
      required_lawful text_lawful (fun _ _ => rfl) ?_, List.forall_mem_nil _⟩
    all_goals simp [required]
  ext :=
    Record.ext_of_determines (.cons (required_determines flag_lawful) <|
      .cons (required_determines text_lawful) .nil) fun _ _ => rfl

theorem Proxy.record_lawful : Proxy.record.Lawful where
  nodup_names := by decide
  fields := by
    simp only [Proxy.record, List.forall_mem_cons]
    refine ⟨required_lawful word64_lawful (fun _ _ => rfl) ?_,
      required_lawful word64_lawful (fun _ _ => rfl) ?_,
      required_lawful word64_lawful (fun _ _ => rfl) ?_,
      required_lawful word64_lawful (fun _ _ => rfl) ?_,
      required_lawful Domain.record_lawful.format_lawful (fun _ _ => rfl) ?_,
      required_lawful flag_lawful (fun _ _ => rfl) ?_,
      required_lawful (listOf_lawful text_lawful) (fun _ _ => rfl) ?_,
      required_lawful (listOf_lawful text_lawful) (fun _ _ => rfl) ?_,
      optional_lawful text_lawful (fun _ => nofun) (fun _ _ => rfl) ?_ rfl,
      List.forall_mem_nil _⟩
    all_goals simp [required, Field.optional]
  ext :=
    Record.ext_of_determines (.cons (required_determines word64_lawful) <|
      .cons (required_determines word64_lawful) <| .cons (required_determines word64_lawful) <|
      .cons (required_determines word64_lawful) <|
      .cons (required_determines Domain.record_lawful.format_lawful) <|
      .cons (required_determines flag_lawful) <|
      .cons (required_determines (listOf_lawful text_lawful)) <|
      .cons (required_determines (listOf_lawful text_lawful)) <|
      .cons (optional_determines text_lawful) .nil) fun _ _ => rfl

theorem Sanitizing.record_lawful : Sanitizing.record.Lawful where
  nodup_names := by decide
  fields := by
    simp only [Sanitizing.record, List.forall_mem_cons]
    refine ⟨required_lawful (listOf_lawful text_lawful) (fun _ _ => rfl) ?_,
      required_lawful (listOf_lawful text_lawful) (fun _ _ => rfl) ?_,
      required_lawful text_lawful (fun _ _ => rfl) ?_,
      required_lawful text_lawful (fun _ _ => rfl) ?_,
      optional_lawful word64_lawful (fun _ => nofun) (fun _ _ => rfl) ?_ rfl,
      List.forall_mem_nil _⟩
    all_goals simp [required, Field.optional]
  ext :=
    Record.ext_of_determines (.cons (required_determines (listOf_lawful text_lawful)) <|
      .cons (required_determines (listOf_lawful text_lawful)) <|
      .cons (required_determines text_lawful) <| .cons (required_determines text_lawful) <|
      .cons (optional_determines word64_lawful) .nil) fun _ _ => rfl

theorem Logging.record_lawful : Logging.record.Lawful where
  nodup_names := by decide
  fields := by
    simp only [Logging.record, List.forall_mem_cons]
    refine ⟨required_lawful text_lawful (fun _ _ => rfl) ?_,
      required_lawful LogFormat.choice_lawful (fun _ _ => rfl) ?_, List.forall_mem_nil _⟩
    all_goals simp [required]
  ext :=
    Record.ext_of_determines (.cons (required_determines text_lawful) <|
      .cons (required_determines LogFormat.choice_lawful) .nil) fun _ _ => rfl

theorem record_lawful : record.Lawful where
  nodup_names := by decide
  fields := by
    simp only [record, List.forall_mem_cons]
    refine ⟨required_lawful Server.record_lawful.format_lawful (fun _ _ => rfl) ?_,
      required_lawful Proxy.record_lawful.format_lawful (fun _ _ => rfl) ?_,
      required_lawful Sanitizing.record_lawful.format_lawful (fun _ _ => rfl) ?_,
      required_lawful Logging.record_lawful.format_lawful (fun _ _ => rfl) ?_,
      List.forall_mem_nil _⟩
    all_goals simp [required]
  ext :=
    Record.ext_of_determines (.cons (required_determines Server.record_lawful.format_lawful) <|
      .cons (required_determines Proxy.record_lawful.format_lawful) <|
      .cons (required_determines Sanitizing.record_lawful.format_lawful) <|
      .cons (required_determines Logging.record_lawful.format_lawful) .nil) fun _ _ => rfl

/-! ## Filling in defaults -/

variable {value : Json}

theorem toOption_eq_some_iff {ε α : Type} {result : Except ε α} {content : α} :
    result.toOption = some content ↔ result = .ok content := by
  cases result with
  | ok held => simp [Except.toOption]
  | error cause => simp [Except.toOption]

theorem toOption_ofJson : (ofJson value).toOption = (record.read value).toOption := by
  rw [ofJson]
  cases record.read value with
  | ok config => rfl
  | error cause => rfl

theorem value_orDefault : (orDefault value).value = (ofJson value).toOption.getD {} := by
  rw [orDefault]
  cases ofJson value with
  | ok config => rfl
  | error cause => rfl

theorem value_complete (hobject : value.isObject = true) :
    (complete value).value = value.withDefaults (orDefault value).value.toJson := by
  rw [complete, if_pos hobject]
  rfl

/-- A completed value is read like the value itself. -/
theorem toOption_ofJson_complete (hobject : value.isObject = true) (hordered : value.IsOrdered) :
    (ofJson (complete value).value).toOption = (ofJson value).toOption := by
  rw [toOption_ofJson, toOption_ofJson, value_complete hobject]
  apply record_lawful.format_lawful.completed hordered
  intro config hread
  have hconfig : (record.read value).toOption = some config := toOption_eq_some_iff.2 hread
  rw [value_orDefault, toOption_ofJson, hconfig, Option.getD_some]

/-- An object reads as a configuration after its defaults were filled in exactly if it did so
before, and as the same one.  Whatever is no object stays in its place, and the settings in
effect stand in theirs unless the object holds something else on the way there.  Filling in
defaults once more changes nothing, and a configuration reads as itself from what it writes. -/
theorem complete_keeps_settings (value : Json) (hobject : value.isObject = true)
    (hordered : value.IsOrdered) :
    (∀ config, ofJson (complete value).value = .ok config ↔ ofJson value = .ok config) ∧
      (∀ path content, value.at? path = some content → content.isObject = false →
        (complete value).value.at? path = some content) ∧
      (∀ path content, (orDefault value).value.toJson.at? path = some content →
        content.isObject = false → (complete value).value.at? path = some content ∨
          ∃ short held default, short <+: path ∧ value.at? short = some held ∧
            (orDefault value).value.toJson.at? short = some default ∧
            (held.isObject = false ∨ default.isObject = false)) ∧
      (complete (complete value).value).value = (complete value).value ∧
      ∀ config, ofJson config.toJson = .ok config := by
  have hsame := toOption_ofJson_complete hobject hordered
  have hdefaults : ∀ config, (toJson config).IsOrdered := record_lawful.isOrdered_write
  refine ⟨fun config => ?_, fun path content hcontent hother => ?_,
    fun path content hcontent hother => ?_, ?_, fun config => ?_⟩
  · rw [← toOption_eq_some_iff, hsame, toOption_eq_some_iff]
  · rw [value_complete hobject]
    exact Json.at?_withDefaults (hdefaults _) hcontent hother
  · rw [value_complete hobject]
    exact Json.at?_withDefaults_of_default value (hdefaults _) hcontent hother
  · have hcompleted : (complete value).value.isObject = true := by
      rw [value_complete hobject, Json.isObject_withDefaults, hobject]
    rw [value_complete hcompleted, value_orDefault, hsame, ← value_orDefault,
      value_complete hobject]
    exact Json.withDefaults_withDefaults hordered (hdefaults _)
  · rw [← toOption_eq_some_iff, toOption_ofJson, toOption_eq_some_iff]
    exact record_lawful.read_write config

/-- A configuration that sets one port, and names a section that there is not. -/
def portOnly : Json :=
  .object [("server", .object [("port", .integer 9000)]), ("theme", .array [])]

theorem complete_keeps_settings_port :
    portOnly.isObject = true ∧ portOnly.IsOrdered ∧
      ofJson (complete portOnly).value = .ok { server := { port := 9000 } } ∧
      (complete portOnly).value.at? [.member "server", .member "port"] =
        some (.integer 9000) := by
  have hserver : Json.IsOrdered (.object [("port", .integer 9000)]) :=
    .object (by decide) (List.forall_mem_singleton.2 (.integer 9000))
  have hordered : portOnly.IsOrdered :=
    .object (by decide) (List.forall_mem_cons.2
      ⟨hserver, List.forall_mem_singleton.2 (.array nofun)⟩)
  obtain ⟨hreads, hstays, -⟩ := complete_keeps_settings portOnly rfl hordered
  exact ⟨rfl, hordered, (hreads _).2 rfl, hstays _ _ rfl rfl⟩

end GadgetGuard.Config
