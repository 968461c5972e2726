import Reconciliation.Object.Kind
import Reconciliation.Proofs.CodecLaws

/-! # Custom kinds are read as they were written

The codec of every structure that an object of a custom kind is made of is faithful, member by member. So
such an object is read as it was written, and a document that is read as one has a normal form: what the
object is written as. Members that were missing, were `null` or had other names make no difference to it.
-/

namespace Reconciliation

section Metadata

theorem OwnerReference.faithful : OwnerReference.codec.Faithful :=
  Record.Faithful.of OwnerReference.mk
    |>.lenient .text |>.optional .flag |>.optional .flag |>.lenient .text |>.lenient .text |>.lenient .text
    |>.codec (by decide) fun _ => rfl

theorem ObjectMeta.faithful : ObjectMeta.codec.Faithful :=
  Record.Faithful.of ObjectMeta.mk
    |>.optional .stringMap |>.optional .text |>.optional .text |>.optional (.list .text) |>.optional .text
    |>.optional .int64 |>.optional .stringMap |>.optional .text |>.optional .text
    |>.optional (.list OwnerReference.faithful) |>.optional .text |>.optional .text
    |>.codec (by decide) fun _ => rfl

end Metadata

section Stacks

theorem AppStackSpec.faithful : AppStackSpec.codec.Faithful :=
  Record.Faithful.of AppStackSpec.mk
    |>.required .text |>.optional .int32 |>.required .int32 |>.defaulted .flag |>.defaulted .flag
    |>.rowCodec (by decide) fun _ => rfl

end Stacks

section Platform

theorem RouteTargetReference.faithful : RouteTargetReference.codec.Faithful :=
  Record.Faithful.of RouteTargetReference.mk
    |>.required .text |>.required .text |>.optional .int32
    |>.rowCodec (by decide) fun _ => rfl

theorem RoutePort.faithful : RoutePort.codec.Faithful :=
  Record.Faithful.of RoutePort.mk
    |>.required .text
    |>.rowCodec (by decide) fun _ => rfl

theorem TlsConfig.faithful : TlsConfig.codec.Faithful :=
  Record.Faithful.of TlsConfig.mk
    |>.required .text |>.optional .text
    |>.rowCodec (by decide) fun _ => rfl

theorem RouteSpec.faithful : RouteSpec.codec.Faithful :=
  Record.Faithful.of RouteSpec.mk
    |>.optional .text |>.defaulted RouteTargetReference.faithful |>.optional RoutePort.faithful
    |>.optional TlsConfig.faithful
    |>.rowCodec (by decide) fun _ => rfl

theorem TagObjectReference.faithful : TagObjectReference.codec.Faithful :=
  Record.Faithful.of TagObjectReference.mk
    |>.required .text |>.required .text |>.optional .text
    |>.rowCodec (by decide) fun _ => rfl

theorem TagImportPolicy.faithful : TagImportPolicy.codec.Faithful :=
  Record.Faithful.of TagImportPolicy.mk
    |>.optional .flag |>.optional .flag
    |>.rowCodec (by decide) fun _ => rfl

theorem TagReferencePolicy.faithful : TagReferencePolicy.codec.Faithful :=
  Record.Faithful.of TagReferencePolicy.mk
    |>.required .text
    |>.rowCodec (by decide) fun _ => rfl

theorem TagReference.faithful : TagReference.codec.Faithful :=
  Record.Faithful.of TagReference.mk
    |>.required .text |>.optional .stringMap |>.optional TagObjectReference.faithful
    |>.optional TagImportPolicy.faithful |>.optional TagReferencePolicy.faithful
    |>.rowCodec (by decide) fun _ => rfl

theorem ImageStreamSpec.faithful : ImageStreamSpec.codec.Faithful :=
  Record.Faithful.of ImageStreamSpec.mk
    |>.defaulted (.list TagReference.faithful)
    |>.rowCodec (by decide) fun _ => rfl

end Platform

section Monitoring

theorem MonitorSelector.faithful : MonitorSelector.codec.Faithful :=
  Record.Faithful.of MonitorSelector.mk
    |>.optional .stringMap
    |>.rowCodec (by decide) fun _ => rfl

theorem Endpoint.faithful : Endpoint.codec.Faithful :=
  Record.Faithful.of Endpoint.mk
    |>.optional .text |>.optional .text |>.optional .text |>.optional .text
    |>.rowCodec (by decide) fun _ => rfl

theorem ServiceMonitorSpec.faithful : ServiceMonitorSpec.codec.Faithful :=
  Record.Faithful.of ServiceMonitorSpec.mk
    |>.defaulted MonitorSelector.faithful |>.defaulted (.list Endpoint.faithful)
    |>.rowCodec (by decide) fun _ => rfl

theorem PodMonitorSpec.faithful : PodMonitorSpec.codec.Faithful :=
  Record.Faithful.of PodMonitorSpec.mk
    |>.defaulted MonitorSelector.faithful |>.defaulted (.list Endpoint.faithful)
    |>.rowCodec (by decide) fun _ => rfl

theorem AlertingRule.faithful : AlertingRule.codec.Faithful :=
  Record.Faithful.of AlertingRule.mk
    |>.optional .text |>.optional .text |>.required .text |>.optional .text |>.optional .stringMap
    |>.optional .stringMap
    |>.rowCodec (by decide) fun _ => rfl

theorem RuleGroup.faithful : RuleGroup.codec.Faithful :=
  Record.Faithful.of RuleGroup.mk
    |>.required .text |>.defaulted (.list AlertingRule.faithful)
    |>.rowCodec (by decide) fun _ => rfl

theorem PrometheusRuleSpec.faithful : PrometheusRuleSpec.codec.Faithful :=
  Record.Faithful.of PrometheusRuleSpec.mk
    |>.defaulted (.list RuleGroup.faithful)
    |>.rowCodec (by decide) fun _ => rfl

theorem GrafanaDashboardSpec.faithful : GrafanaDashboardSpec.codec.Faithful :=
  Record.Faithful.of GrafanaDashboardSpec.mk
    |>.defaulted .text |>.optional .text
    |>.rowCodec (by decide) fun _ => rfl

end Monitoring

namespace Kind

/-- The content of an object of a custom kind is read as it was written. -/
theorem record_faithful {kind : Kind} (custom : kind.isCustom = true) :
    kind.record.names = ["spec"] ∧ kind.record.Faithful id := by
  cases kind with
  | appStack => exact ⟨rfl, .required AppStackSpec.faithful (.of AppStack.mk)⟩
  | grafanaDashboard => exact ⟨rfl, .required GrafanaDashboardSpec.faithful (.of GrafanaDashboard.mk)⟩
  | imageStream => exact ⟨rfl, .required ImageStreamSpec.faithful (.of ImageStream.mk)⟩
  | podMonitor => exact ⟨rfl, .required PodMonitorSpec.faithful (.of PodMonitor.mk)⟩
  | prometheusRule => exact ⟨rfl, .required PrometheusRuleSpec.faithful (.of PrometheusRule.mk)⟩
  | route => exact ⟨rfl, .required RouteSpec.faithful (.of Route.mk)⟩
  | serviceMonitor => exact ⟨rfl, .required ServiceMonitorSpec.faithful (.of ServiceMonitor.mk)⟩
  | _ => cases custom

/-- An object of a custom kind is read as it was written. -/
theorem decode_encode {kind : Kind} (custom : kind.isCustom = true) (object : kind.Object) :
    kind.codec.decode? (kind.codec.encode object) = some object := by
  obtain ⟨names, faithful⟩ := record_faithful custom
  let members := [("apiVersion", Json.string kind.apiVersion), ("kind", .string kind.name),
    ("metadata", ObjectMeta.codec.encode object.metadata)] ++ kind.record.write object.content
  have metadata : kind.readMetadata? (members.lookup "metadata") = some object.metadata := by
    have written := ObjectMeta.faithful.encode_ne_null object.metadata
    have found : members.lookup "metadata" = some (ObjectMeta.codec.encode object.metadata) := rfl
    simp only [found, readMetadata?, ObjectMeta.faithful.decode_encode]
  have content : (kind.record.read? fun name => members.lookup name) = some object.content := by
    have distinct : kind.record.names.Nodup := names ▸ by decide
    refine faithful.read distinct object.content _ fun name within => ?_
    -- the members that every object has are not the one of the content
    obtain rfl : name = "spec" := List.mem_singleton.mp (names ▸ within)
    rfl
  have decoded : kind.codec.decode? (.object members) =
      (kind.readMetadata? (members.lookup "metadata")).bind fun metadata =>
        (kind.record.read? fun name => members.lookup name).bind fun content => some (.mk metadata content) := by
    simp only [codec, custom, Bool.true_or, if_true]
    rfl
  exact decoded.trans (by rw [metadata, content, Option.bind_some, Option.bind_some])

/-- What a document becomes that is read as an object of a kind and written again. -/
def normalForm? (kind : Kind) (document : Json) : Option Json :=
  (kind.codec.decode? document).map kind.codec.encode

end Kind

/-- For every custom kind, the object that is read from a written one is the same in metadata and content. If
a document is read as an object of the kind, its normal form is read as the same object and is its own
normal form. -/
theorem custom_kind_round_trips (kind : Kind) (custom : kind.isCustom = true) :
    (∀ object : kind.Object, kind.codec.decode? (kind.codec.encode object) = some object) ∧
    ∀ document object, kind.codec.decode? document = some object →
      ∃ normal, kind.normalForm? document = some normal ∧
        kind.codec.decode? normal = some object ∧ kind.normalForm? normal = some normal := by
  have back := Kind.decode_encode custom
  refine ⟨back, fun document object read => ⟨kind.codec.encode object, ?_, back object, ?_⟩⟩
  · rw [Kind.normalForm?, read, Option.map_some]
  · rw [Kind.normalForm?, back, Option.map_some]

/-- A document that gives an endpoint as the row of its values, has no selector and a superfluous member is read as a
monitor of services; its normal form says the same in full. -/
theorem custom_kind_round_trips_of_service_monitor :
    let document : Json := .object
      [("spec", .object
          [("endpoints", .array [.array [.string "http", .null, .null, .null], .object [("path", .string "/metrics")]])]),
        ("status", .null),
        ("metadata", .object [("name", .string "shop"), ("labels", .object [])])]
    let monitor : Kind.serviceMonitor.Object :=
      ⟨{ name := some "shop", labels := some .empty },
        ⟨{ selector := { matchLabels := none }, endpoints := [{ port := some "http" }, { path := some "/metrics" }] }⟩⟩
    Kind.serviceMonitor.isCustom = true ∧ Kind.serviceMonitor.codec.decode? document = some monitor ∧
      (Kind.serviceMonitor.codec.decode? (Kind.serviceMonitor.codec.encode monitor) = some monitor) ∧
      ∃ normal, Kind.serviceMonitor.normalForm? document = some normal ∧
        Kind.serviceMonitor.codec.decode? normal = some monitor ∧
        Kind.serviceMonitor.normalForm? normal = some normal := by
  intro document monitor
  have read : Kind.serviceMonitor.codec.decode? document = some monitor := by decide +kernel
  obtain ⟨written, normal⟩ := custom_kind_round_trips .serviceMonitor rfl
  exact ⟨rfl, read, written monitor, normal document monitor read⟩

end Reconciliation
