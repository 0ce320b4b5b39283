import ContentVisibility.Attributes.Basic
import ContentVisibility.Rule.RuleSet

/-! # Events

What can be observed of an evaluation besides its value: the calls of functions
that the host supplied, each with the value it was given, and the entries
written to the log.  A log entry is a cause; its level, its message and its
fields follow from it. -/
set_option autoImplicit false

namespace ContentVisibility

/-- A call of a function that the host supplied. -/
inductive Callback where
  | capability (name : Text)
  | attributes (attributes : Attributes)
  | hideRules (rules : List Predicate)
  | showRules (rules : List Predicate)
  | content (content : Text)
  deriving DecidableEq

inductive LogEntry where
  | absoluteResolved (set : Absolute) (matched : Bool)
  | ruleMatched (predicate : Predicate) (index : Nat)
  | noRuleMatched (count : Nat)
  | blockResolved (audience exclude : Text) (shown : Bool)
  | unknownAttribute (name : Text)
  | viewerLoaded (isLoggedIn : Bool) (roles : Nat)
  | unsupportedUserKey (error : UnknownUserKey)
  | nestingTooDeep (depth : Nat)
  deriving DecidableEq

inductive Event where
  | called (callback : Callback)
  | logged (entry : LogEntry)
  deriving DecidableEq

namespace Event

def callback? : Event → Option Callback
  | .called c => some c
  | .logged _ => none

def entry? : Event → Option LogEntry
  | .called _ => none
  | .logged e => some e

end Event

/-! ## The text of the log -/

inductive LogLevel where
  | debug
  | warn
  deriving DecidableEq

def LogLevel.text : LogLevel → Text
  | .debug => "DEBUG".toList
  | .warn => "WARN".toList

inductive LogValue where
  | text (s : Text)
  | flag (b : Bool)
  | count (n : Nat)
  deriving DecidableEq

/-- The name by which the log calls an absolute set. -/
def Absolute.logName : Absolute → Text
  | .everyone => "All".toList
  | .loggedIn => "Logged".toList
  | .loggedOut => "NotLogged".toList

namespace LogEntry

def level : LogEntry → LogLevel
  | .unsupportedUserKey _ => .warn
  | .nestingTooDeep _ => .warn
  | _ => .debug

def message : LogEntry → Text
  | .absoluteResolved _ _ => "absolute rule resolved".toList
  | .ruleMatched _ _ => "rule matched".toList
  | .noRuleMatched _ => "no rule matched".toList
  | .blockResolved _ _ _ => "content block resolved".toList
  | .unknownAttribute _ => "ignoring unknown attribute".toList
  | .viewerLoaded _ _ => "viewer context loaded".toList
  | .unsupportedUserKey _ => "user predicate with unsupported key".toList
  | .nestingTooDeep _ => "shortcode nesting too deep, leaving blocks unexpanded".toList

def fields : LogEntry → List (Text × LogValue)
  | .absoluteResolved set matched =>
      [("rule_set".toList, .text set.logName), ("matched".toList, .flag matched)]
  | .ruleMatched predicate index =>
      [("predicate".toList, .text predicate.display), ("index".toList, .count index)]
  | .noRuleMatched count => [("count".toList, .count count)]
  | .blockResolved audience exclude shown =>
      [("for_spec".toList, .text audience), ("exclude".toList, .text exclude),
       ("shown".toList, .flag shown)]
  | .unknownAttribute name => [("attribute".toList, .text name)]
  | .viewerLoaded isLoggedIn roles =>
      [("logged_in".toList, .flag isLoggedIn), ("roles".toList, .count roles)]
  | .unsupportedUserKey error => [("error".toList, .text error.message)]
  | .nestingTooDeep depth => [("depth".toList, .count depth)]

end LogEntry

end ContentVisibility
