import ClusterLink.Options.Basic
import Mathlib.Data.List.Basic

/-!
# Options with paths of the system

Options have texts for all of their paths exactly if every path among them is the path of a text,
and then the options with these texts are the only ones that they are the same as.
-/

namespace ClusterLink

section Read

variable {α β : Type} {read : α → Option β} {write : β → α}
  (hread : ∀ {a b}, read a = some b ↔ write b = a)
include hread

theorem listMapM_eq_some_iff {values : List α} {found : List β} :
    values.mapM read = some found ↔ found.map write = values := by
  induction values generalizing found with
  | nil => simp [eq_comm]
  | cons value rest ih =>
      simp only [List.mapM_cons, Option.bind_eq_bind, Option.bind_eq_some_iff, hread, ih,
        Option.pure_def, Option.some.injEq]
      constructor
      · rintro ⟨_, rfl, _, rfl, rfl⟩
        rfl
      · intro h
        obtain ⟨b, others, rfl, hvalue, hrest⟩ := List.map_eq_cons_iff.1 h
        exact ⟨b, hvalue, others, hrest, rfl⟩

theorem optionMapM_eq_some_iff {value : Option α} {found : Option β} :
    value.mapM read = some found ↔ found.map write = value := by
  cases value with
  | none => simp [eq_comm]
  | some a =>
      simp only [Option.mapM_some, Option.map_eq_map, Option.map_eq_some_iff, hread]
      constructor
      · rintro ⟨b, hb, rfl⟩
        exact ⟨b, rfl, hb⟩
      · rintro ⟨b, rfl, hb⟩
        exact ⟨b, hb, rfl⟩

end Read

namespace Options

variable {options : Options SystemPath} {texts : Options} {α β : Type}

def paths (options : Options α) : List α :=
  options.sslCertificate.toList ++ options.sslKey.toList ++ options.sslKeystorePath.toList ++
    options.sslTruststorePath.toList ++ options.sslCertificateAuthorities.toList.flatten ++
    options.geoipDatabaseDirectory.toList

theorem paths_mapPaths (change : α → β) (options : Options α) :
    (options.mapPaths change).paths = options.paths.map change := by
  simp [paths, mapPaths, Option.toList_map]

theorem mapPaths_mapPaths {γ : Type} (first : α → β) (second : β → γ) (options : Options α) :
    (options.mapPaths first).mapPaths second = options.mapPaths (second ∘ first) := by
  simp only [mapPaths, Option.map_map, List.map_comp_map]

/-- Options have texts for all of their paths if they are what options with texts become. -/
theorem texts?_eq_some_iff :
    options.texts? = some texts ↔ texts.mapPaths SystemPath.ofText = options := by
  have hpath {path text} : SystemPath.text? path = some text ↔ SystemPath.ofText text = path :=
    SystemPath.text?_eq_some_iff.trans eq_comm
  have hpaths {paths texts} :=
    @listMapM_eq_some_iff SystemPath String SystemPath.text? SystemPath.ofText hpath paths texts
  simp only [texts?, Option.bind_eq_bind, Option.bind_eq_some_iff, optionMapM_eq_some_iff hpath,
    optionMapM_eq_some_iff hpaths, Option.some.injEq]
  constructor
  · rintro ⟨_, hcertificate, _, hkey, _, hkeystore, _, htruststore, _, hauthorities, _, hgeoip,
      rfl⟩
    simp only [mapPaths, *]
  · rintro rfl
    exact ⟨_, rfl, _, rfl, _, rfl, _, rfl, _, rfl, _, rfl, rfl⟩

theorem mapPaths_eq_self {change : α → α} {options : Options α}
    (h : ∀ path ∈ options.paths, change path = path) : options.mapPaths change = options := by
  have hone {value : Option α} (hvalue : ∀ path ∈ value.toList, change path = path) :
      value.map change = value := by
    cases value with
    | none => rfl
    | some path => exact congrArg some (hvalue path (List.mem_singleton.2 rfl))
  have hmany {value : Option (List α)} (hvalue : ∀ path ∈ value.toList.flatten, change path = path) :
      value.map (List.map change) = value := by
    cases value with
    | none => rfl
    | some paths =>
        have hpaths : ∀ path ∈ paths, change path = path := by simpa using hvalue
        exact congrArg some ((List.map_congr_left hpaths).trans (List.map_id _))
  simp only [paths, List.mem_append, or_imp, forall_and] at h
  obtain ⟨⟨⟨⟨⟨hcertificate, hkey⟩, hkeystore⟩, htruststore⟩, hauthorities⟩, hgeoip⟩ := h
  simp only [mapPaths, hone hcertificate, hone hkey, hone hkeystore, hone htruststore,
    hmany hauthorities, hone hgeoip]

theorem texts?_eq_none_iff :
    options.texts? = none ↔ ∃ path ∈ options.paths, ∀ text, path ≠ .ofText text := by
  constructor
  · intro hnone
    by_contra hall
    push Not at hall
    choose! text htext using hall
    have hsame : (options.mapPaths text).mapPaths SystemPath.ofText = options := by
      rw [mapPaths_mapPaths]
      exact mapPaths_eq_self fun path hpath => (htext path hpath).symm
    rw [texts?_eq_some_iff.2 hsame] at hnone
    cases hnone
  · rintro ⟨path, hpath, hnone⟩
    refine Option.eq_none_iff_forall_ne_some.2 fun texts htexts => ?_
    rw [← texts?_eq_some_iff.1 htexts, paths_mapPaths] at hpath
    obtain ⟨text, -, hsame⟩ := List.mem_map.1 hpath
    exact hnone text hsame.symm

end Options

end ClusterLink
