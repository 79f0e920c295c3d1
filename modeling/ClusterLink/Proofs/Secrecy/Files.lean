import ClusterLink.Proofs.Settings.Exchange
import ClusterLink.Proofs.Toml.Documents
import ClusterLink.Proofs.Toml.Excerpt
import Mathlib.Data.Bool.AllAny

/-!
# Secrets in refused files

A settings file is refused before there are any secrets, so a refusal can hold one: it shows the
line of the fault as it is written. It holds a secret if the secret is written on this line, and
depends on no secret otherwise.
-/

namespace ClusterLink

open Toml

namespace Toml.Respelling

variable (r : Respelling) (before : List Char)

def lineNumber : Nat := (before ++ (delimiter r.quote r.isLong ++ r.lead)).count '\n' + 1

theorem break_not_mem {word : List Char} (h : ∀ c ∈ word, IsPlain c) : '\n' ∉ word :=
  fun hmem => absurd (h _ hmem).1 (by decide)

theorem append_textOf (value : List Char) : before ++ r.textOf value =
    (before ++ (delimiter r.quote r.isLong ++ r.lead)) ++
      (value ++ (delimiter r.quote r.isLong ++ r.after)) := by
  simp only [textOf, List.append_assoc]

end Toml.Respelling

namespace Settings

def refusal (text : List Char) (misfit : Misfit) : String :=
  (Excerpt.ofSpan text misfit.span).report (misfit.cause.message .toml)

variable {r : Respelling} {before : List Char} {key : OptionKey} {document : List (Key × Tree)}
  {misfit : Misfit}

/-- Whether a misfit is on the line on which the letters stand. -/
def OnSecretLine (r : Respelling) (before : List Char) (misfit : Misfit) : Prop :=
  (Excerpt.ofSpan (before ++ r.old) misfit.span).lineNumber = r.lineNumber before

/-- A refusal for a misfit on the line of the letters shows them, whatever they are. -/
theorem refusal_shows (h : OnSecretLine r before misfit) :
    r.letters <:+: (refusal (before ++ r.old) misfit).toList ∧
      r.others <:+: (refusal (before ++ r.new) misfit).toList ∧
        (r.letters ≠ r.others →
          refusal (before ++ r.old) misfit ≠ refusal (before ++ r.new) misfit) := by
  have hletters := Respelling.break_not_mem r.plain
  have hothers := Respelling.break_not_mem r.plainOthers
  rw [OnSecretLine, Respelling.old, r.append_textOf] at h
  rw [Respelling.old, Respelling.new, r.append_textOf, r.append_textOf]
  obtain ⟨lead, trail, hold, hnew⟩ := Excerpt.line_of_word hletters hothers r.length h
  obtain ⟨hnumber, hcolumn⟩ :=
    Excerpt.place_eq_of_breaks (Excerpt.breaks_word hletters hothers r.length) misfit.span
  refine ⟨?_, ?_, fun hne hsame => hne ?_⟩
  · refine List.IsInfix.trans ?_ (Excerpt.infix_report _ _)
    rw [hold]
    exact ⟨lead, trail, List.append_assoc ..⟩
  · refine List.IsInfix.trans ?_ (Excerpt.infix_report _ _)
    rw [hnew]
    exact ⟨lead, trail, List.append_assoc ..⟩
  · have hlines := Excerpt.line_eq_of_report_eq hnumber hcolumn
      (by rw [hold, hnew]; simp only [List.length_append, r.length]) hsame
    rw [hold, hnew] at hlines
    exact (List.append_inj (List.append_cancel_left hlines) r.length).1

/-- A refusal for a misfit on another line says the same for all letters. -/
theorem refusal_hides (h : ¬ OnSecretLine r before misfit)
    (hsizes : Excerpt.sizes r.letters = Excerpt.sizes r.others) :
    refusal (before ++ r.old) misfit = refusal (before ++ r.new) misfit := by
  have hletters := Respelling.break_not_mem r.plain
  have hothers := Respelling.break_not_mem r.plainOthers
  rw [OnSecretLine, Respelling.old, r.append_textOf] at h
  rw [Respelling.old, Respelling.new, r.append_textOf, r.append_textOf, refusal, refusal,
    Excerpt.ofSpan_eq_of_word hletters hothers hsizes h]

/-- What becomes of a file, and what becomes of it with other letters in a secret. -/
inductive ParsedAlike (r : Respelling) (before : List Char) (key : OptionKey) :
    Except ConfigFault Settings → Except ConfigFault Settings → Prop
  | accepted (settings : Settings) : ParsedAlike r before key (.ok settings)
      (.ok (settings.give key (.secret ⟨String.ofList r.others⟩)))
  | noDocument : ParsedAlike r before key (.error .notToml) (.error .notToml)
  | shown (misfit : Misfit) (line : OnSecretLine r before misfit)
      (letters : r.letters <:+: (refusal (before ++ r.old) misfit).toList)
      (others : r.others <:+: (refusal (before ++ r.new) misfit).toList)
      (depends : r.letters ≠ r.others →
        refusal (before ++ r.old) misfit ≠ refusal (before ++ r.new) misfit) :
      ParsedAlike r before key (.error (.parseFailed (refusal (before ++ r.old) misfit)))
        (.error (.parseFailed (refusal (before ++ r.new) misfit)))
  | hidden (misfit : Misfit) (line : ¬ OnSecretLine r before misfit)
      (same : Excerpt.sizes r.letters = Excerpt.sizes r.others →
        refusal (before ++ r.old) misfit = refusal (before ++ r.new) misfit) :
      ParsedAlike r before key (.error (.parseFailed (refusal (before ++ r.old) misfit)))
        (.error (.parseFailed (refusal (before ++ r.new) misfit)))

/-- The same fault in both texts. -/
theorem ParsedAlike.of_misfit (misfit : Misfit) :
    ParsedAlike r before key (.error (.parseFailed (refusal (before ++ r.old) misfit)))
      (.error (.parseFailed (refusal (before ++ r.new) misfit))) := by
  by_cases hline : OnSecretLine r before misfit
  · obtain ⟨hletters, hothers, hdepends⟩ := refusal_shows hline
    exact .shown misfit hline hletters hothers hdepends
  · exact .hidden misfit hline (refusal_hides hline)

/--
Whatever letters a secret has, the same becomes of its file: the same settings but for the secret,
or a refusal for the same fault. The refusal shows the letters if they are on the line of the fault,
and does not depend on them otherwise.
-/
theorem parse_respelled (hdocument : document? (before ++ r.old) = some document)
    (hsecret : GivesSecret r.place (String.ofList r.letters) key document) :
    ParsedAlike r before key (parse (String.ofList (before ++ r.old)))
      (parse (String.ofList (before ++ r.new))) := by
  have htidy := tidy_document? hdocument default
  obtain ⟨hone, hnew⟩ := Respelling.respells_document? hdocument hsecret.countAt_ne_zero
  have hread := foldlM_readEntry_respell (String.ofList r.others) htidy hone hsecret
  rw [parse, parse, String.toList_ofList, String.toList_ofList, hdocument, hnew]
  simp only [isReadable_respell, areProper_respell hone hsecret, hread]
  split
  · exact .noDocument
  · cases document.foldlM readEntry {} with
    | ok settings => exact .accepted settings
    | error misfit =>
        simp only [Functor.map, Except.map]
        split
        · exact .of_misfit misfit
        · exact .noDocument

/-! ## A secret and a fault on one line -/

theorem parse_of_misfit {text : List Char} (hdocument : document? text = some document)
    (hreadable : isReadable document = true)
    (hread : document.foldlM readEntry {} = .error misfit)
    (hproper : areProper document = true) :
    parse (String.ofList text) = .error (.parseFailed (refusal text misfit)) := by
  rw [parse, String.toList_ofList, hdocument]
  simp only [hreadable, hread, hproper, Bool.not_true, Bool.false_eq_true, if_false, if_true]
  rfl

def inlineStart : List Char := "elastic_integration = \x7b password = ".toList

def inlineSecret : Respelling where
  quote := '"'
  isLong := false
  lead := []
  letters := "abcdef".toList
  others := "uvwxyz".toList
  after := ", ssl_enabled = 1 \x7d".toList
  quotes := .inl rfl
  leads := .inl rfl
  written := by decide
  plain := List.all_iff_forall_prop.1 (by decide)
  plainOthers := List.all_iff_forall_prop.1 (by decide)
  length := rfl

def inlineDocument (password : String) : List (Key × Tree) :=
  [(⟨"elastic_integration", ⟨62, 43⟩⟩, .table ⟨40, 0⟩
    [(⟨"password", ⟨38, 30⟩⟩, .scalar ⟨27, 19⟩ (.text password)),
      (⟨"ssl_enabled", ⟨17, 6⟩⟩, .scalar ⟨3, 2⟩ (.integer 1))])]

theorem document?_inline :
    document? (inlineStart ++ inlineSecret.old) = some (inlineDocument "abcdef") := by
  decide +kernel

theorem parsedAlike_inline : ParsedAlike inlineSecret inlineStart .password
    (parse (String.ofList (inlineStart ++ inlineSecret.old)))
    (parse (String.ofList (inlineStart ++ inlineSecret.new))) := by
  have hsecret : GivesSecret inlineSecret.place (String.ofList inlineSecret.letters) .password
      (inlineDocument "abcdef") :=
    .mk (List.mem_singleton.2 rfl) rfl List.mem_cons_self rfl rfl
  exact parse_respelled document?_inline hsecret

def inlineMisfit : Misfit := ⟨.wrongType (.integer 1) "a boolean", ⟨3, 2⟩⟩

theorem parse_inline_ne : ∃ reason other,
    parse "elastic_integration = \x7b password = \"abcdef\", ssl_enabled = 1 \x7d" =
        .error (.parseFailed reason) ∧
      parse "elastic_integration = \x7b password = \"uvwxyz\", ssl_enabled = 1 \x7d" =
        .error (.parseFailed other) ∧ reason ≠ other := by
  have hnew : document? (inlineStart ++ inlineSecret.new) = some (inlineDocument "uvwxyz") := by
    decide +kernel
  have hline : OnSecretLine inlineSecret inlineStart inlineMisfit := by
    unfold OnSecretLine
    decide +kernel
  obtain ⟨-, -, hdepends⟩ := refusal_shows hline
  refine ⟨_, _, ?_, ?_, hdepends (by decide)⟩
  · exact parse_of_misfit document?_inline rfl rfl rfl
  · exact parse_of_misfit hnew rfl rfl rfl

end Settings

end ClusterLink
