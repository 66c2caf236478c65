import CertRenewal.Proofs.Blanks
import CertRenewal.Proofs.Bundles
import CertRenewal.Proofs.Manifests
import CertRenewal.Proofs.Startup

/-
  The groups that are asked to sign, as they stand in one text of the settings. `Writes` says which
  texts a list of groups can be written as: with commas between, blanks around and blank items
  anywhere. Main statement: `groups_normal`, a text is read as a list exactly if it is one of those
  that the list is written as; what is read is of the right shape and is read again from itself,
  joined by commas; and it is what stands in every manifest of the service that the settings
  describe.
-/

namespace CertRenewal

open Lifecycle

namespace Settings

/-- A group as it is read: not empty, without a comma, and with no blank at its ends. -/
structure IsGroup (g : String) : Prop where
  ne_empty : g ≠ ""
  comma_not_mem : ',' ∉ g.toList
  isTrimmed : Text.IsTrimmed Text.isBlank g.toList

/-- The text is one that the groups are written as: a blank one for no groups, a group between
blanks, or two texts with a comma between them for the groups of the one and then of the other. -/
inductive Writes : List String → String → Prop where
  | blank {s : String} (h : Text.isBlankText s = true) : Writes [] s
  | group {before g behind : String} (h : IsGroup g) (front : Text.isBlankText before = true)
      (back : Text.isBlankText behind = true) : Writes [g] (before ++ g ++ behind)
  | comma {gs hs : List String} {s t : String} (first : Writes gs s) (last : Writes hs t) :
      Writes (gs ++ hs) (s ++ "," ++ t)

/-- Groups are read on both sides of a comma apart. -/
theorem groupsOf_comma (s t : String) : groupsOf (s ++ "," ++ t) = groupsOf s ++ groupsOf t := by
  have cut : (s ++ "," ++ t).toList = s.toList ++ ',' :: t.toList := by
    rw [String.toList_append, String.toList_append, List.append_assoc]
    rfl
  unfold groupsOf
  rw [cut, Pieces.splitAt_append, List.map_append, List.filter_append, List.map_append]

/-- A text without a comma is one group or none. -/
theorem groupsOf_of_not_mem {s : String} (h : ',' ∉ s.toList) :
    groupsOf s = if Text.trim s = "" then [] else [Text.trim s] := by
  have empty : Text.trim s = "" ↔ Text.trimList Text.isBlank s.toList = [] := by
    rw [← String.toList_eq_nil_iff, Text.toList_trim]
  unfold groupsOf
  rw [Pieces.splitAt_of_not_mem h, List.map_singleton]
  by_cases hs : Text.trim s = ""
  · rw [if_pos hs, empty.1 hs]
    rfl
  · rw [if_neg hs, List.filter_cons, if_pos (decide_eq_true (mt empty.2 hs))]
    rfl

theorem comma_not_mem_of_isBlankText {s : String} (h : Text.isBlankText s = true) :
    ',' ∉ s.toList := by
  intro mem
  have blank := List.all_eq_true.1 h _ mem
  revert blank
  decide

variable {gs : List String} {s : String}

/-- Groups are read from every text that they are written as. -/
theorem Writes.groupsOf_eq (h : Writes gs s) : groupsOf s = gs := by
  induction h with
  | blank h =>
    rw [groupsOf_of_not_mem (comma_not_mem_of_isBlankText h), if_pos (Text.trim_eq_empty_iff.2 h)]
  | @group before g behind h front back =>
    have plain : ',' ∉ (before ++ g ++ behind).toList := by
      rw [String.toList_append, String.toList_append, List.mem_append, List.mem_append]
      rintro ((mem | mem) | mem)
      · exact comma_not_mem_of_isBlankText front mem
      · exact h.comma_not_mem mem
      · exact comma_not_mem_of_isBlankText back mem
    have trimmed : Text.trim (before ++ g ++ behind) = g := by
      rw [Text.trim_append_append g front back, Text.trim_of_isTrimmed h.isTrimmed]
    rw [groupsOf_of_not_mem plain, trimmed, if_neg h.ne_empty]
  | comma _ _ ih_first ih_last => rw [groupsOf_comma, ih_first, ih_last]

theorem Writes.isGroup (h : Writes gs s) : ∀ g ∈ gs, IsGroup g := by
  induction h with
  | blank => exact nofun
  | group h => exact List.forall_mem_singleton.2 h
  | comma _ _ ih_first ih_last => exact List.forall_mem_append.2 ⟨ih_first, ih_last⟩

/-- Every text is one that the groups which are read from it are written as. -/
theorem writes_groupsOf (s : String) : Writes (groupsOf s) s := by
  induction size : s.length using Nat.strongRecOn generalizing s with
  | _ n ih =>
    subst size
    by_cases h : ',' ∈ s.toList
    · -- The texts on the two sides of a comma are shorter.
      obtain ⟨before, behind, cut⟩ := List.append_of_mem h
      have joined : s = String.ofList before ++ "," ++ String.ofList behind := by
        rw [← String.toList_inj, cut]
        simp
      have size : s.length = before.length + behind.length + 1 := by
        rw [← String.length_toList, cut, List.length_append, List.length_cons]
        omega
      have first := ih _ (by rw [String.length_ofList]; omega) (String.ofList before) rfl
      have last := ih _ (by rw [String.length_ofList]; omega) (String.ofList behind) rfl
      rw [joined, groupsOf_comma]
      exact .comma first last
    · rw [groupsOf_of_not_mem h]
      by_cases nothing : Text.trim s = ""
      · rw [if_pos nothing]
        exact .blank (Text.trim_eq_empty_iff.1 nothing)
      · obtain ⟨before, behind, split, front, back⟩ := Text.exists_eq_append_trim s
        have isGroup : IsGroup (Text.trim s) := by
          refine ⟨nothing, ?_, ?_⟩
          · intro mem
            apply h
            rw [split, String.toList_append, String.toList_append]
            exact List.mem_append_left _ (List.mem_append_right _ mem)
          · rw [Text.toList_trim]
            exact Text.isTrimmed_trimList _ _
        rw [if_neg nothing]
        have written := Writes.group isGroup front back
        rwa [← split] at written

theorem groupsOf_eq_iff : groupsOf s = gs ↔ Writes gs s :=
  ⟨fun h => h ▸ writes_groupsOf s, Writes.groupsOf_eq⟩

/-- Groups joined by commas are one of the texts that they are written as. -/
theorem writes_intercalate (h : ∀ g ∈ gs, IsGroup g) : Writes gs (",".intercalate gs) := by
  have alone : ∀ g, IsGroup g → Writes [g] g := by
    intro g isGroup
    have written := @Writes.group "" g "" isGroup rfl rfl
    rwa [String.empty_append, String.append_empty] at written
  induction gs with
  | nil => exact .blank rfl
  | cons g gs ih =>
    obtain ⟨first, others⟩ := List.forall_mem_cons.1 h
    by_cases last : gs = []
    · rw [last, String.intercalate_singleton]
      exact alone g first
    · rw [String.intercalate_cons_of_ne_nil last]
      exact .comma (alone g first) (ih others)

/-! ## What is submitted -/

theorem groups_of_service {s : Settings} {service : Service} (h : s.service = .ok service) :
    service.builder.groups = s.groups := by
  unfold Settings.service at h
  cases made : Rotation.Policy.ofSpan (.ofDays s.reserveWindowDays) with
  | error e =>
    rw [made] at h
    cases h
  | ok policy =>
    rw [made] at h
    cases h
    rfl

end Settings

/-- Every request that a service hands out names the groups of its builder. -/
theorem Lifecycle.Service.Gives.groups_eq {service : Service} {source : Rsa.KeySource}
    {i : Identity} {b : Bundle} (h : service.Gives source i b) :
    b.request.groups = service.builder.groups := by
  obtain ⟨fullName, issued⟩ := h.exists_issue
  obtain ⟨key, r, -, built, rfl⟩ := Service.outcome_issue_eq_ok issued
  obtain ⟨c, -, rfl⟩ := Builder.outcome_build_eq_ok built
  rfl

namespace Settings

/-- Groups are read from just the texts that they are written as. What is read is a list of
groups, which are read again from themselves, joined by commas. These groups, and no others, stand
in every manifest of the service that the settings describe. -/
theorem groups_normal (s : Settings) :
    (∀ g ∈ s.groups, IsGroup g) ∧
      { s with signerGroups := ",".intercalate s.groups }.groups = s.groups ∧
      (∀ gs, s.groups = gs ↔ Writes gs s.signerGroups) ∧
      ∀ (service : Service) (source : Rsa.KeySource) (i : Identity) (b : Bundle),
        s.service = .ok service → service.Gives source i b →
          SigningRequest.specified? b.request.manifest "groups" =
            some (.list (s.groups.map .text)) := by
  have shape : ∀ g ∈ s.groups, IsGroup g := (writes_groupsOf s.signerGroups).isGroup
  refine ⟨shape, (writes_intercalate shape).groupsOf_eq, fun _ => groupsOf_eq_iff, ?_⟩
  intro service source i b made given
  show some (Json.list (b.request.groups.map .text)) = _
  rw [given.groups_eq, groups_of_service made]

/-- Settings with blanks of several kinds around their groups and inside one, and with items that
are blank. -/
def untidy : Settings :=
  { Settings.standard with signerGroups := " system:masters ,,\u2003team a, " }

theorem writes_untidy : Writes ["system:masters", "team a"] untidy.signerGroups := by
  have masters : IsGroup "system:masters" :=
    ⟨by decide, by decide, Text.isTrimmed_iff_trimList_eq.2 (by decide)⟩
  have team : IsGroup "team a" :=
    ⟨by decide, by decide, Text.isTrimmed_iff_trimList_eq.2 (by decide)⟩
  have first : Writes ["system:masters"] (" " ++ "system:masters" ++ " ") :=
    .group masters (by decide) (by decide)
  have second : Writes ["team a"] ("\u2003" ++ "team a" ++ "") :=
    .group team (by decide) (by decide)
  have nothing : Writes [] "" := .blank rfl
  have blank : Writes [] " " := .blank (by decide)
  exact ((first.comma nothing).comma second).comma blank

/-- The requests under these settings name the two groups. -/
theorem groups_normal_untidy :
    untidy.groups = ["system:masters", "team a"] ∧
      ∃ service b, untidy.service = .ok service ∧
        service.Gives (.ready (some .sample)) Builder.sampleIdentity b ∧
        SigningRequest.specified? b.request.manifest "groups" =
          some (.list [.text "system:masters", .text "team a"]) := by
  obtain ⟨-, -, read, submitted⟩ := groups_normal untidy
  have groups := (read _).2 writes_untidy
  obtain ⟨service, made, describes⟩ := untidy.service_of_mem (by decide) (by decide)
  obtain ⟨c, certified, -⟩ := Builder.exists_certify_sample
  have drawn : (Rsa.KeySource.ready (some .sample)).draw service.keySize = .ok (some .sample) := by
    rw [describes.keySize]
    rfl
  have issued := Service.outcome_issue_of_ok service (.ready (some .sample)) (some true) drawn
    (Builder.outcome_build_of_ok certified)
  refine ⟨groups, service, _, made, .issued issued, ?_⟩
  rw [submitted service _ _ _ made (.issued issued), groups]
  rfl

end Settings

end CertRenewal
