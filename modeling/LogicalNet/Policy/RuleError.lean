import LogicalNet.Text.Numeral

/-!
# Errors of security rules

Why a security group, or a rule of one, does not compile.
-/

namespace LogicalNet

inductive IcmpField where
  | kind
  | code
  deriving DecidableEq

def IcmpField.text : IcmpField → String
  | kind => "type"
  | code => "code"

inductive RuleError where
  | missingGroup
  | invalidAddress (rule address : String)
  | invalidPorts (rule : String) (least greatest : UInt32)
  | invalidIcmp (rule : String) (field : IcmpField) (value : Int32)
  | unknownProtocol (rule protocol : String)
  deriving DecidableEq

def RuleError.message : RuleError → String
  | missingGroup => "security group is missing"
  | invalidAddress rule address =>
      "rule " ++ rule ++ ": invalid remote ip prefix " ++ address
  | invalidPorts rule least greatest =>
      "rule " ++ rule ++ ": invalid port range " ++ Text.decimal least.toNat ++ "-" ++
        Text.decimal greatest.toNat
  | invalidIcmp rule field value =>
      "rule " ++ rule ++ ": icmp " ++ field.text ++ " " ++ Text.signedDecimal value.toInt ++
        " is outside -1..=255"
  | unknownProtocol rule protocol => "rule " ++ rule ++ ": unknown protocol " ++ protocol

end LogicalNet
