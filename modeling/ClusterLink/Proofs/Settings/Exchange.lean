import ClusterLink.Proofs.Settings.Shape
import ClusterLink.Proofs.Toml.Proper

/-!
# Exchanged secrets

A document gives a secret option a text. With another text there, the same is read of it but for the
secret, or the same entry is at fault: no other entry is read differently, and everything that is
asked of a secret's text is whether it is one.
-/

namespace ClusterLink

/-! ## Folds -/

section Fold

variable {α σ ε : Type} {step : σ → α → Except ε σ} {change : σ → σ}

/-- A change that every step hands on is handed on by all of them. -/
theorem foldlM_change {items : List α}
    (hitems : ∀ item ∈ items, ∀ state, step (change state) item = change <$> step state item)
    (state : σ) : items.foldlM step (change state) = change <$> items.foldlM step state := by
  induction items generalizing state with
  | nil => rfl
  | cons item rest ih =>
      obtain ⟨hitem, hrest⟩ := List.forall_mem_cons.1 hitems
      rw [List.foldlM_cons, List.foldlM_cons, hitem]
      cases step state item with
      | error fault => rfl
      | ok next => exact ih hrest next

/-- One item in place of another changes the result as it changes the step. -/
theorem foldlM_exchange {before after : List α} {item other : α}
    (hitem : ∀ state, step state other = change <$> step state item)
    (hafter : ∀ item ∈ after, ∀ state, step (change state) item = change <$> step state item)
    (state : σ) :
    (before ++ other :: after).foldlM step state =
      change <$> (before ++ item :: after).foldlM step state := by
  rw [List.foldlM_append, List.foldlM_append]
  cases before.foldlM step state with
  | error fault => rfl
  | ok next =>
      change (other :: after).foldlM step next = change <$> (item :: after).foldlM step next
      rw [List.foldlM_cons, List.foldlM_cons, hitem]
      cases step next item with
      | error fault => rfl
      | ok last => exact foldlM_change hafter last

end Fold

/-! ## Options -/

namespace Options

variable {options other : Options} {key : OptionKey}

theorem value?_give_congr (value : OptionValue) (h : options.value? key = other.value? key) :
    (options.give key value).value? key = (other.give key value).value? key := by
  cases key <;> cases value <;> first | rfl | exact h

theorem give_comm (options : Options) {key other : OptionKey} (h : key ≠ other)
    (value otherValue : OptionValue) :
    (options.give key value).give other otherValue =
      (options.give other otherValue).give key value := by
  refine ext_value? fun third => ?_
  by_cases hkey : key = third
  · rw [value?_give_of_ne _ (hkey ▸ h.symm), ← hkey]
    exact value?_give_congr value (value?_give_of_ne options h.symm otherValue).symm
  · rw [value?_give_of_ne _ hkey]
    by_cases hother : other = third
    · rw [← hother]
      exact value?_give_congr otherValue (value?_give_of_ne options h value)
    · rw [value?_give_of_ne _ hother, value?_give_of_ne _ hother, value?_give_of_ne _ hkey]

theorem give_give (options : Options) (key : OptionKey) (old new : Secret) :
    (options.give key (.secret old)).give key (.secret new) = options.give key (.secret new) := by
  cases key <;> rfl

theorem readEntry_give (options : Options) (value : OptionValue) {entry : Key × Tree}
    (h : entry.1.name ≠ key.name) : readEntry (options.give key value) entry =
      (fun read => read.give key value) <$> readEntry options entry := by
  unfold readEntry
  split
  next other hother =>
    have hne : key ≠ other := fun hsame => h (hsame ▸ (OptionKey.name_of_ofName? hother).symm)
    unfold readValue
    split
    · rfl
    · cases other.spec.kind.read entry.2 with
      | error misfit => rfl
      | ok found => exact congrArg Except.ok (give_comm options hne value found)
  · rfl

theorem readEntry_secret (options : Options) (hsecret : key.spec.kind = .password) {name : Key}
    (hname : name.name = key.name) (place : Span) (value : String) :
    readEntry options (name, .scalar place (.text value)) =
      .ok (options.give key (.secret ⟨value⟩)) := by
  rw [readEntry, hname, OptionKey.ofName?_name]
  simp only [readValue, hsecret, OptionKind.read]
  rfl

/-- With another text for a secret option, the same options are read but for the secret. -/
theorem read_respell {format : DocumentFormat} {span place : Span} {value other : String}
    {name : Key} {entries : List (Key × Tree)} (hascending : Ascending entries)
    (hmem : (name, Tree.scalar place (.text value)) ∈ entries)
    (hone : Tree.countInEntries place entries = 1) (hname : name.name = key.name)
    (hsecret : key.spec.kind = .password) :
    read format (.table span (Tree.respellEntries place other entries)) =
      (fun read => read.give key (.secret ⟨other⟩)) <$> read format (.table span entries) := by
  have hvalue := ne_of_eq_of_ne (Tree.countAt_scalar place (.text value)) one_ne_zero
  obtain ⟨-, before, after, rfl, hrespelled⟩ :=
    Tree.respellEntries_of_mem other hmem hvalue hone
  rw [hrespelled]
  refine foldlM_exchange (fun options => ?_) (fun entry hentry options => ?_) _
  · rw [Tree.respell, if_pos rfl, readEntry_secret options hsecret hname,
      readEntry_secret options hsecret hname]
    exact congrArg Except.ok (options.give_give key ⟨value⟩ ⟨other⟩).symm
  · have hlater := (List.pairwise_cons.1 (List.pairwise_append.1 hascending).2.1).1 entry hentry
    exact readEntry_give options _ (hname ▸ hlater.ne')

end Options

/-! ## Settings -/

namespace Settings

def give (key : OptionKey) (value : OptionValue) (settings : Settings) : Settings :=
  { settings with options := settings.options.give key value }

theorem readEntry_give (settings : Settings) {key : OptionKey} (value : OptionValue)
    {entry : Key × Tree} (h : entry.1.name ≠ "elastic_integration") :
    readEntry (settings.give key value) entry = give key value <$> readEntry settings entry := by
  unfold readEntry
  rw [if_neg h, if_neg h]
  split
  · cases General.read entry.2 <;> rfl
  · rfl

/-- A document gives a secret option the text at a place. -/
inductive GivesSecret (place : Span) (value : String) (key : OptionKey)
    (document : List (Key × Tree)) : Prop
  | mk {entries : List (Key × Tree)} {table name : Key} {span : Span}
      (table_mem : (table, Tree.table span entries) ∈ document)
      (isOptions : table.name = "elastic_integration")
      (mem : (name, Tree.scalar place (.text value)) ∈ entries) (isOption : name.name = key.name)
      (isSecret : key.spec.kind = .password) : GivesSecret place value key document

section Exchanged

variable {place : Span} {value other : String} {key : OptionKey} {document : List (Key × Tree)}

theorem GivesSecret.countAt_ne_zero (h : GivesSecret place value key document) :
    Tree.countInEntries place document ≠ 0 := by
  obtain ⟨htable, -, hmem, -, -⟩ := h
  have hvalue := ne_of_eq_of_ne (Tree.countAt_scalar place (.text value)) one_ne_zero
  exact Tree.countInEntries_ne_zero htable (Tree.countInEntries_ne_zero hmem hvalue)

theorem foldlM_readEntry_respell (other : String)
    (htidy : (Tree.table default document).Tidy)
    (hone : Tree.countInEntries place document = 1) (h : GivesSecret place value key document) :
    (Tree.respellEntries place other document).foldlM readEntry {} =
      give key (.secret ⟨other⟩) <$> document.foldlM readEntry {} := by
  obtain @⟨entries, table, name, span, htable, hsection, hmem, hname, hsecret⟩ := h
  have hvalue := ne_of_eq_of_ne (Tree.countAt_scalar place (.text value)) one_ne_zero
  have hcount : (Tree.table span entries).countAt place ≠ 0 :=
    Tree.countInEntries_ne_zero hmem hvalue
  cases htidy with
  | table hascending htidy =>
      have hentries := htidy _ htable
      obtain ⟨hentry, before, after, rfl, hrespelled⟩ :=
        Tree.respellEntries_of_mem other htable hcount hone
      cases hentries with
      | table hentriesAscending _ =>
          rw [hrespelled]
          refine foldlM_exchange (fun settings => ?_) (fun entry hafter settings => ?_) _
          · rw [readEntry, readEntry, if_pos hsection, if_pos hsection, Tree.respell,
              Options.read_respell hentriesAscending hmem hentry hname hsecret]
            cases Options.read .toml (.table span entries) <;> rfl
          · have hlater :=
              (List.pairwise_cons.1 (List.pairwise_append.1 hascending).2.1).1 entry hafter
            exact readEntry_give settings _ (hsection ▸ hlater.ne')

theorem lookedAt_respell (name : String) (tree : Tree) :
    lookedAt name (tree.respell place other) = (lookedAt name tree).respell place other := by
  cases tree with
  | scalar span found => cases found <;> rfl
  | list span items =>
      rw [Tree.respell, lookedAt, lookedAt, Tree.respellItems_eq_map, ← List.map_take,
        ← List.map_take, ← Tree.respellItems_eq_map, ← Tree.respellItems_eq_map,
        ← Tree.respellItems_eq_map]
      split
      · rfl
      · split <;> rfl
  | table span entries => rfl

theorem isReadable_respell (document : List (Key × Tree)) :
    isReadable (Tree.respellEntries place other document) = isReadable document := by
  rw [isReadable, Tree.respellEntries_eq_map, List.all_map]
  congr 1
  funext entry
  rw [Function.comp_apply, lookedAt_respell]
  exact Tree.allScalars_respell (fun _ _ => rfl) _

theorem name_ne_momentName (key : OptionKey) : key.name ≠ Toml.momentName := by
  cases key <;> decide

/-- A secret option's text is not the text of a date or time, and else any text is proper. -/
theorem isProper_respell {entries : List (Key × Tree)} {name : Key} (span : Span)
    (hmem : (name, Tree.scalar place (.text value)) ∈ entries)
    (hone : Tree.countInEntries place entries = 1) (hname : name.name = key.name) :
    Toml.isProper (.table span (Tree.respellEntries place other entries)) =
      Toml.isProper (.table span entries) := by
  have hvalue := ne_of_eq_of_ne (Tree.countAt_scalar place (.text value)) one_ne_zero
  obtain ⟨-, before, after, rfl, hrespelled⟩ :=
    Tree.respellEntries_of_mem other hmem hvalue hone
  have hall : Toml.areProper
      (before ++ (name, (Tree.scalar place (.text value)).respell place other) :: after) =
        Toml.areProper (before ++ (name, Tree.scalar place (.text value)) :: after) := by
    rw [Toml.areProper_eq_all, Toml.areProper_eq_all, List.all_append, List.all_append, List.all_cons,
      List.all_cons]
    rfl
  rw [hrespelled, Toml.isProper, Toml.isProper, hall]
  cases before with
  | nil =>
      have hmoment : name.name ≠ Toml.momentName := hname ▸ name_ne_momentName key
      simp only [List.nil_append, Toml.heldMoment?, if_neg hmoment]
  | cons first before => rfl

theorem areProper_respell (hone : Tree.countInEntries place document = 1)
    (h : GivesSecret place value key document) :
    Toml.areProper (Tree.respellEntries place other document) = Toml.areProper document := by
  obtain @⟨entries, table, name, span, htable, -, hmem, hname, -⟩ := h
  have hvalue := ne_of_eq_of_ne (Tree.countAt_scalar place (.text value)) one_ne_zero
  have hcount : (Tree.table span entries).countAt place ≠ 0 :=
    Tree.countInEntries_ne_zero hmem hvalue
  obtain ⟨hentry, before, after, rfl, hrespelled⟩ :=
    Tree.respellEntries_of_mem other htable hcount hone
  rw [hrespelled, Toml.areProper_eq_all, Toml.areProper_eq_all, List.all_append, List.all_append,
    List.all_cons, List.all_cons, Tree.respell, isProper_respell span hmem hentry hname]

end Exchanged

end Settings

end ClusterLink
