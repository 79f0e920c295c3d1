import ClusterLink.Proofs.CommandLine.Verdicts
import ClusterLink.Proofs.Toml.RoundTrip.Complete

/-!
# What is shown of a connection

A connection is shown as a whole or in one of its parts, as JSON or as a document. Nothing is ever
missing from what is shown, so the document is always written and says the same as the JSON value;
and what is shown of a part is what stands under its name in the whole.
-/

namespace ClusterLink

variable {depth : Nat}

/-! ## Complete parts -/

namespace Datum

/-- A record of texts is complete. -/
theorem Complete.ofTexts {members : List (String × Datum)}
    (hdistinct : (members.map Prod.fst).Nodup) (htexts : members.all (·.2.asText?.isSome) = true) :
    (Datum.record members).Complete (depth + 1) := by
  refine .record hdistinct fun member hmember => ?_
  obtain ⟨text, htext⟩ := Option.isSome_iff_exists.1 (List.all_eq_true.1 htexts member hmember)
  obtain ⟨name, value⟩ := member
  cases value with
  | text => exact .plain .text
  | null | boolean | integer | float | list | record => cases htext

theorem names_optional_sublist (key : String) (value : Option Datum) :
    ((optional key value).map Prod.fst).Sublist [key] := by
  cases value with
  | none => exact List.nil_sublist _
  | some datum => exact .refl _

theorem complete_optional {key : String} {value : Option Datum}
    (h : ∀ datum, value = some datum → datum.Complete depth) :
    ∀ member ∈ optional key value, member.2.Complete depth := by
  cases value with
  | none => exact List.forall_mem_nil _
  | some datum => exact List.forall_mem_singleton.2 (h datum rfl)

end Datum

theorem Identity.complete (identity : Identity) :
    (Datum.record identity.members).Complete (depth + 1) := by
  cases identity with
  | certificateKey certificate key passphrase =>
      have hnames : ["type", "certificate", "key", "passphrase"].Nodup := by decide
      exact .ofTexts hnames rfl
  | keystore path password =>
      have hnames : ["type", "path", "password"].Nodup := by decide
      exact .ofTexts hnames rfl

theorem Trust.complete (trust : Trust) : (Datum.record trust.members).Complete (depth + 1) := by
  cases trust with
  | system | unverified =>
      have hnames : ["type"].Nodup := by decide
      exact .ofTexts hnames rfl
  | truststore path password =>
      have hnames : ["type", "path", "password"].Nodup := by decide
      exact .ofTexts hnames rfl
  | certificateAuthorities paths =>
      have hnames : ["type", "paths"].Nodup := by decide
      exact .record hnames (List.forall_mem_cons.2
        ⟨.plain .text, List.forall_mem_singleton.2 (.plain (.texts id paths))⟩)

theorem Tls.complete (tls : Tls) : (Datum.record tls.members).Complete (depth + 2) := by
  cases tls with
  | disabled =>
      have hnames : ["status"].Nodup := by decide
      exact .ofTexts hnames rfl
  | enabled mode identity trust =>
      have hnames : ["status", "verification_mode", "identity", "trust"].Nodup := by decide
      refine .record (hnames.sublist ?_) ?_
      · rw [members, List.map_append, List.map_append]
        exact (List.Sublist.append (.refl _) (Datum.names_optional_sublist _ _)).append (.refl _)
      · refine List.forall_mem_append.2 ⟨List.forall_mem_append.2 ⟨?_, ?_⟩, ?_⟩
        · exact List.forall_mem_cons.2 ⟨.plain .text, List.forall_mem_singleton.2 (.plain .text)⟩
        · refine Datum.complete_optional fun datum hdatum => ?_
          obtain ⟨found, -, rfl⟩ := Option.map_eq_some_iff.1 hdatum
          exact found.complete
        · exact List.forall_mem_singleton.2 trust.complete

theorem Target.complete (target : Target) :
    (Datum.record target.members).Complete (depth + 1) := by
  cases target with
  | hosts endpoints =>
      have hnames : ["hosts"].Nodup := by decide
      exact .record hnames (List.forall_mem_singleton.2 (.plain (.texts Endpoint.text endpoints)))
  | cloudId identifier =>
      have hnames : ["cloud_id"].Nodup := by decide
      exact .ofTexts hnames rfl

theorem Credentials.complete (credentials : Credentials) :
    (Datum.record credentials.members).Complete (depth + 1) := by
  cases credentials with
  | none =>
      have hnames : ["type"].Nodup := by decide
      exact .ofTexts hnames rfl
  | apiKey key =>
      have hnames : ["type", "value"].Nodup := by decide
      exact .ofTexts hnames rfl
  | basic username password =>
      have hnames : ["type", "username", "password"].Nodup := by decide
      exact .ofTexts hnames rfl
  | cloudAuth credentials =>
      have hnames : ["type", "username", "password"].Nodup := by decide
      exact .ofTexts hnames rfl

theorem Connection.distinct_members (connection : Connection) :
    (connection.members.map Prod.fst).Nodup := by
  have hnames :
      ["id", "target", "tls", "auth", "pipeline_name", "geoip_database_directory"].Nodup := by
    decide
  refine hnames.sublist ?_
  rw [members, List.map_append, List.map_append]
  exact (List.Sublist.append (.refl _) (Datum.names_optional_sublist _ _)).append
    (Datum.names_optional_sublist _ _)

theorem Connection.complete (connection : Connection) :
    (Datum.record connection.members).Complete (depth + 3) := by
  refine .record connection.distinct_members ?_
  refine List.forall_mem_append.2 ⟨List.forall_mem_append.2 ⟨?_, ?_⟩, ?_⟩
  · simp only [List.forall_mem_cons]
    exact ⟨.plain .text, connection.target.complete, connection.tls.complete,
      connection.credentials.complete, List.forall_mem_nil _⟩
  · refine Datum.complete_optional fun datum hdatum => ?_
    obtain ⟨name, -, rfl⟩ := Option.map_eq_some_iff.1 hdatum
    exact .plain .text
  · refine Datum.complete_optional fun datum hdatum => ?_
    obtain ⟨path, -, rfl⟩ := Option.map_eq_some_iff.1 hdatum
    exact .plain .text

namespace CommandLine

namespace ConnectionReport

variable (report : ConnectionReport)

def told (report : ConnectionReport) : Datum :=
  match report.part with
  | .all => report.value
  | part => .record [(part.name, report.value)]

theorem complete_members : (Datum.record report.members).Complete (depth + 3) := by
  obtain ⟨source, part, connection⟩ := report
  cases part with
  | target => exact connection.target.complete
  | tls => exact connection.tls.complete
  | auth => exact connection.credentials.complete
  | all => exact connection.complete

theorem complete_document : (Datum.record report.document).Complete (depth + 4) := by
  have hmembers : (Datum.record report.members).Complete (depth + 3) := report.complete_members
  obtain ⟨source, part, connection⟩ := report
  cases part with
  | all => exact connection.complete
  | target | tls | auth =>
      exact .record (List.nodup_singleton _) (List.forall_mem_singleton.2 hmembers)

theorem sorted_document : (Datum.record report.document).sorted = report.told := by
  obtain ⟨source, part, connection⟩ := report
  cases part <;> rfl

/--
What a report says is in both of its forms: the JSON form holds the value, and the text holds a
document that reads as the value.
-/
structure SaysAlike : Prop where
  json : ∃ members, report.datum = .record members ∧
    Members.get? "config" members = some report.value
  text : ∃ written document, Toml.tryWrite .onePerLine report.document = .ok written ∧
    report.text = report.heading ++ written ∧ Toml.document? written.toList = some document ∧
    ∀ span, (Tree.table span document).Holds report.told

theorem saysAlike : report.SaysAlike := by
  constructor
  · obtain ⟨source, part, connection⟩ := report
    cases part <;> exact ⟨_, rfl, rfl⟩
  · obtain ⟨written, document, hwritten, hdocument, hholds⟩ :=
      Toml.document?_tryWrite .onePerLine report.complete_document
    refine ⟨written, document, hwritten, by rw [text, hwritten], hdocument, ?_⟩
    rwa [sorted_document] at hholds

/-- What is shown of a part is what stands under its name in the whole. -/
theorem get?_value {whole : ConnectionReport} (hwhole : whole.part = .all)
    (hpart : report.part ≠ .all)
    (htarget : report.connection.target = whole.connection.target)
    (htls : report.connection.tls = whole.connection.tls)
    (hcredentials : report.connection.credentials = whole.connection.credentials) :
    ∃ members, whole.value = .record members ∧
      Members.get? report.part.name members = some report.value := by
  have hmember : (report.part.name, Datum.record report.members) ∈ whole.connection.members := by
    obtain ⟨source, part, connection⟩ := report
    refine List.mem_append_left _ (List.mem_append_left _ ?_)
    cases part with
    | target => simp [members, Part.name, ← htarget]
    | tls => simp [members, Part.name, ← htls]
    | auth => simp [members, Part.name, ← hcredentials]
    | all => exact absurd rfl hpart
  have hmembers : whole.members = whole.connection.members := by
    rw [members, hwhole]
  refine ⟨_, by rw [value, hmembers]; rfl, ?_⟩
  exact Datum.get?_sorted whole.connection.distinct_members hmember

end ConnectionReport

/--
The two forms of a report say the same, for a part and for the whole, and a part says what the whole
says under its name, also if the two are shown by different runs that make names for the filter.
-/
theorem displayed_alike (context other : Context) (hvalidator : context.validator = other.validator)
    (part : Part) {settings : Settings} {validated : Validated}
    (h : context.outcome settings = .ok validated) :
    ∃ whole, other.outcome settings = .ok whole ∧
      let report : ConnectionReport := ⟨context.source, part, validated.connection⟩
      let full : ConnectionReport := ⟨other.source, .all, whole.connection⟩
      (runDisplay context part (.ok settings)).fault = none ∧
      (runDisplay context part (.ok settings)).output =
        render context.output report.text report.datum ∧
      (runDisplay other .all (.ok settings)).fault = none ∧
      (runDisplay other .all (.ok settings)).output = render other.output full.text full.datum ∧
      report.SaysAlike ∧ full.SaysAlike ∧
      (part ≠ .all → ∃ members, full.value = .record members ∧
        Members.get? part.name members = some report.value) := by
  have halike := Context.outcome_alike context other hvalidator settings
  rw [h] at halike
  obtain ⟨whole, hwhole, hunnamed⟩ := map_eq_ok_iff.1 halike.symm
  obtain ⟨hfault, houtput⟩ := runDisplay_of_ok part h
  obtain ⟨hfullFault, hfullOutput⟩ := runDisplay_of_ok .all hwhole
  have htarget : validated.connection.target = whole.connection.target :=
    (congrArg (fun v => v.connection.target) hunnamed).symm
  have htls : validated.connection.tls = whole.connection.tls :=
    (congrArg (fun v => v.connection.tls) hunnamed).symm
  have hcredentials : validated.connection.credentials = whole.connection.credentials :=
    (congrArg (fun v => v.connection.credentials) hunnamed).symm
  refine ⟨whole, hwhole, hfault, houtput, hfullFault, hfullOutput, ConnectionReport.saysAlike _,
    ConnectionReport.saysAlike _, fun hpart => ?_⟩
  exact ConnectionReport.get?_value ⟨context.source, part, validated.connection⟩ rfl hpart htarget
    htls hcredentials

def oddOptions : Options where
  id := some "it's \"odd\"\n\x07"
  hosts := some ["https://es1"]
  sslEnabled := some true
  sslCertificateAuthorities := some ["C:\\'ca'.pem", "\"\"\"'''"]
  username := some "line\nbreak"
  password := some ⟨"changeme"⟩
  pipelineName := some ""

def oddConnection : Connection where
  id := "it's \"odd\"\n\x07"
  target := .hosts [⟨some "https", "es1", some 9200, some "/"⟩]
  tls := .enabled .full none (.certificateAuthorities ["C:\\'ca'.pem", "\"\"\"'''"])
  credentials := .basic "line\nbreak" ⟨"changeme"⟩
  pipelineName := some ""

theorem displayed_alike_oddConnection :
    Context.outcome ⟨⟨.sealing, .unavailable⟩, ⟨[]⟩, .text, "filter.toml"⟩ ⟨{}, oddOptions⟩ =
        .ok ⟨oddConnection, []⟩ ∧
      ConnectionReport.SaysAlike ⟨"filter.toml", .auth, oddConnection⟩ ∧
      ConnectionReport.SaysAlike ⟨"filter.toml", .all, oddConnection⟩ := by
  have haccepted : Context.outcome ⟨⟨.sealing, .unavailable⟩, ⟨[]⟩, .text, "filter.toml"⟩
      ⟨{}, oddOptions⟩ = .ok ⟨oddConnection, []⟩ := by decide +kernel
  obtain ⟨whole, hwhole, -, -, -, -, hauth, hall, -⟩ :=
    displayed_alike ⟨⟨.sealing, .unavailable⟩, ⟨[]⟩, .text, "filter.toml"⟩
      ⟨⟨.sealing, .unavailable⟩, ⟨[]⟩, .text, "filter.toml"⟩ rfl .auth haccepted
  cases haccepted.symm.trans hwhole
  exact ⟨haccepted, hauth, hall⟩

end CommandLine

end ClusterLink
