import Reconciliation.Codec

/-! # Monitors, alerting rules and dashboards

Kinds that a cluster serves only if the operators for monitoring or dashboards are installed.
-/

namespace Reconciliation

/-- The labels of the objects that are monitored. -/
structure MonitorSelector where
  matchLabels : Option StringMap := none
deriving DecidableEq, Inhabited

def MonitorSelector.codec : Codec MonitorSelector :=
  (Record.of MonitorSelector MonitorSelector.mk
    |>.optional "matchLabels" (·.matchLabels) .stringMap).rowCodec

/-- Where the metrics of a monitored object are read. -/
structure Endpoint where
  port : Option String := none
  path : Option String := none
  interval : Option String := none
  scheme : Option String := none
deriving DecidableEq, Inhabited

def Endpoint.codec : Codec Endpoint :=
  (Record.of Endpoint Endpoint.mk
    |>.optional "port" (·.port) .text
    |>.optional "path" (·.path) .text
    |>.optional "interval" (·.interval) .text
    |>.optional "scheme" (·.scheme) .text).rowCodec

/-- Services and the endpoints of their metrics. -/
structure ServiceMonitorSpec where
  selector : MonitorSelector
  endpoints : List Endpoint
deriving DecidableEq, Inhabited

def ServiceMonitorSpec.codec : Codec ServiceMonitorSpec :=
  (Record.of ServiceMonitorSpec ServiceMonitorSpec.mk
    |>.defaulted "selector" (·.selector) MonitorSelector.codec
    |>.defaulted "endpoints" (·.endpoints) (.list Endpoint.codec)).rowCodec

/-- The content of a monitor of services. -/
structure ServiceMonitor where
  spec : ServiceMonitorSpec
deriving DecidableEq, Inhabited

def ServiceMonitor.record : Record ServiceMonitor ServiceMonitor :=
  Record.of ServiceMonitor ServiceMonitor.mk
    |>.required "spec" (·.spec) ServiceMonitorSpec.codec

/-- Pods and the endpoints of their metrics. -/
structure PodMonitorSpec where
  selector : MonitorSelector
  podMetricsEndpoints : List Endpoint
deriving DecidableEq, Inhabited

def PodMonitorSpec.codec : Codec PodMonitorSpec :=
  (Record.of PodMonitorSpec PodMonitorSpec.mk
    |>.defaulted "selector" (·.selector) MonitorSelector.codec
    |>.defaulted "podMetricsEndpoints" (·.podMetricsEndpoints) (.list Endpoint.codec)).rowCodec

/-- The content of a monitor of pods. -/
structure PodMonitor where
  spec : PodMonitorSpec
deriving DecidableEq, Inhabited

def PodMonitor.record : Record PodMonitor PodMonitor :=
  Record.of PodMonitor PodMonitor.mk
    |>.required "spec" (·.spec) PodMonitorSpec.codec

/-- An alert or a recorded series, defined by an expression. -/
structure AlertingRule where
  alert : Option String := none
  record : Option String := none
  expr : String
  /-- How long the expression has to hold. -/
  holdFor : Option String := none
  labels : Option StringMap := none
  annotations : Option StringMap := none
deriving DecidableEq, Inhabited

def AlertingRule.codec : Codec AlertingRule :=
  (Record.of AlertingRule AlertingRule.mk
    |>.optional "alert" (·.alert) .text
    |>.optional "record" (·.record) .text
    |>.required "expr" (·.expr) .text
    |>.optional "for" (·.holdFor) .text
    |>.optional "labels" (·.labels) .stringMap
    |>.optional "annotations" (·.annotations) .stringMap).rowCodec

/-- Rules that are evaluated together. -/
structure RuleGroup where
  name : String
  rules : List AlertingRule
deriving DecidableEq, Inhabited

def RuleGroup.codec : Codec RuleGroup :=
  (Record.of RuleGroup RuleGroup.mk
    |>.required "name" (·.name) .text
    |>.defaulted "rules" (·.rules) (.list AlertingRule.codec)).rowCodec

/-- Groups of rules. -/
structure PrometheusRuleSpec where
  groups : List RuleGroup
deriving DecidableEq, Inhabited

def PrometheusRuleSpec.codec : Codec PrometheusRuleSpec :=
  (Record.of PrometheusRuleSpec PrometheusRuleSpec.mk
    |>.defaulted "groups" (·.groups) (.list RuleGroup.codec)).rowCodec

/-- The content of a set of alerting rules. -/
structure PrometheusRule where
  spec : PrometheusRuleSpec
deriving DecidableEq, Inhabited

def PrometheusRule.record : Record PrometheusRule PrometheusRule :=
  Record.of PrometheusRule PrometheusRule.mk
    |>.required "spec" (·.spec) PrometheusRuleSpec.codec

/-- A dashboard. -/
structure GrafanaDashboardSpec where
  /-- The dashboard as JSON text. -/
  json : String
  name : Option String := none
deriving DecidableEq, Inhabited

def GrafanaDashboardSpec.codec : Codec GrafanaDashboardSpec :=
  (Record.of GrafanaDashboardSpec GrafanaDashboardSpec.mk
    |>.defaulted "json" (·.json) .text
    |>.optional "name" (·.name) .text).rowCodec

/-- The content of a dashboard. -/
structure GrafanaDashboard where
  spec : GrafanaDashboardSpec
deriving DecidableEq, Inhabited

def GrafanaDashboard.record : Record GrafanaDashboard GrafanaDashboard :=
  Record.of GrafanaDashboard GrafanaDashboard.mk
    |>.required "spec" (·.spec) GrafanaDashboardSpec.codec

end Reconciliation
