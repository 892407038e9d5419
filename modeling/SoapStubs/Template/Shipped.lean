import SoapStubs.Template

/-!
# The shipped templates

The sources that are generated, as templates over the bindings of the entity they are generated
for.

* `header` and `properties` are pieces that several templates share;
* `requestBean`, `responseBean` and `faultBean` carry messages, the type bindings tell how schema
  types are written;
* `endpointInterface`, `endpointImpl`, `webFault` and the types make up a client library;
* `shipped` lists all templates by name.
-/

namespace SoapStubs.Template

/-- A line break. -/
def newline : String := "\n"

/-- What a name stands for. -/
def slot (x : String) : Node := .print (.name x)

/-- A member of what a name stands for. -/
def part (x m : String) : Node := .print (.member (.name x) m)

/-- A value in braces in front of another. -/
def braced (inner outer : Expr) : Node :=
  .print (.concat [.text "\x7b", inner, .text "\x7d", outer])

/-- A separator unless the current item is the last one. -/
def separated (separator final : String) : Node :=
  .print (.choose (.negate .last) (.text separator) (.text final))

/-! ### Shared pieces -/

/-- The comment at the head of a source, and its package. -/
def header : Node :=
  .call [("package", .name "package"), ("run_id", .name "run_id")] [
    .text "/*\n * Generated by clientgen (run ", slot "run_id", .text "). Do not edit.\n */\n",
    .branch (.name "package") [.text "package ", slot "package", .text ";\n\n"]]

/-- Fields with their accessors. -/
def properties (items : Expr) : Node :=
  .call [("properties", items)] [
    .each "p" (.name "properties") none [
      .text "  private ", part "p" "type", .text " ", part "p" "name", .text ";\n"] [],
    .each "p" (.name "properties") none [
      .text "\n  public ", part "p" "type", .text " get",
      .print (.capitalize (.member (.name "p") "name")),
      .text "() \x7b\n    return this.", part "p" "name",
      .text ";\n  \x7d\n\n  public void set",
      .print (.capitalize (.member (.name "p") "name")), .text "(", part "p" "type", .text " ",
      part "p" "name", .text ") \x7b\n    this.", part "p" "name", .text " = ", part "p" "name",
      .text ";\n  \x7d\n"] []]

/-- The parameters, the faults and the closing parenthesis of a method. -/
def signatureRest : List Node := [
  .each "p" (.member (.name "op") "parameters") none [
    part "p" "type", .text " ", part "p" "name", separated ", " ""] [],
  .text ")",
  .branch (.member (.name "op") "faults") [
    .text " throws ", .print (.join ", " (.member (.name "op") "faults"))]]

/-- The signature of a method. -/
def signature : List Node :=
  [part "op" "return_type", .text " ", part "op" "name", .text "("] ++ signatureRest

/-- Quoted items on lines of their own. -/
def quotedLines (x : String) (shown : Node) (items : Expr) (filter : Option Expr) : Node :=
  .each x items filter [.text "    \"", shown, .text "\"", separated "," "", .text newline] []

/-- The namespace, or words for its absence. -/
def namespaceOrNone : Node := .print (.either (.name "namespace") (.text "(no namespace)"))

/-! ### Beans -/

/-- A bean that wraps the elements of a message. -/
def wrapperBean (title : String) : List Node := [
  header, .text ("\n/**\n * " ++ title ++ " wrapper for "), slot "operation",
  .text ".\n * Element ", braced (.name "namespace") (.name "element_name"),
  .text "; properties are marshalled in declaration order.\n */\npublic class ",
  slot "class_name", .text " \x7b\n\n", properties (.name "properties"), .text "\n\x7d\n"]

def requestBean : List Node := wrapperBean "Request"

def responseBean : List Node := wrapperBean "Response"

def faultBean : List Node := [
  header, .text "\n/**\n * Carrier bean for ", slot "fault", .text ".\n * Element ",
  braced (.name "namespace") (.name "element_name"), .text ".\n */\npublic class ",
  slot "class_name", .text " \x7b\n\n", properties (.name "properties"), .text "\n\x7d\n"]

/-! ### Type bindings -/

/-- How a choice of values is written. -/
def enumTypeBinding : List Node := [
  header, .text "\n/**\n * Wire binding for enumeration ", slot "type_identifier", .text " in ",
  namespaceOrNone, .text ".\n */\npublic final class ", slot "class_name",
  .text " \x7b\n\n  public static final String[] VALUES = \x7b\n",
  quotedLines "value" (slot "value") (.name "values") none,
  .text ("  \x7d;\n\n  public static String toWire(Object value) \x7b\n" ++
    "    return value == null ? null : String.valueOf(value);\n  \x7d\n\x7d\n")]

/-- How a single value is written. -/
def simpleTypeBinding : List Node := [
  header, .text "\n/**\n * Wire binding for simple type ", slot "type_identifier", .text " in ",
  namespaceOrNone, .text ".\n */\npublic final class ", slot "class_name",
  .text " \x7b\n\n  public static final String TYPE = \"", slot "type_identifier", .text "\";\n",
  .branch (.name "base") [
    .text "  public static final String BASE = \"", slot "base", .text "\";\n"],
  .text "\x7d\n"]

/-- The root element of a type. -/
def rootElement : Node :=
  braced (.member (.name "root_element") "namespace") (.member (.name "root_element") "name")

/-- How a record of members is written. -/
def complexTypeBinding : List Node := [
  header, .text "\n/**\n * Wire binding for ", slot "type_identifier", .text " in ",
  namespaceOrNone, .text ".\n",
  .branch (.name "root_element") [.text " * Root element ", rootElement, .text ".\n"],
  .text " */\npublic final class ", slot "class_name",
  .text " \x7b\n\n  public static final String TYPE = \"", slot "type_identifier",
  .text "\";\n  public static final boolean ABSTRACT = ",
  .print (.choose (.name "abstract") (.text "true") (.text "false")),
  .text ";\n  public static final String[] ELEMENTS = \x7b\n",
  quotedLines "member" (part "member" "name") (.name "members")
    (some (.negate (.member (.name "member") "attribute"))),
  .text "  \x7d;\n  public static final String[] ATTRIBUTES = \x7b\n",
  quotedLines "member" (part "member" "name") (.name "members")
    (some (.member (.name "member") "attribute")),
  .text "  \x7d;\n\x7d\n"]

/-! ### Endpoints -/

def endpointInterface : List Node := [
  header, .text "\n/**\n * Client interface for port type ", slot "port_type", .text " (",
  slot "target_namespace", .text ").\n */\npublic interface ", slot "class_name", .text " \x7b\n",
  .each "op" (.name "operations") none ([
    .text "\n  /**\n   * Operation ", part "op" "operation_name",
    .branch (.member (.name "op") "action") [
      .text ", action \"", part "op" "action", .text "\""],
    .branch (.member (.name "op") "one_way") [.text ", one-way"],
    .text ".\n   */\n  "] ++ signature ++ [.text ";\n"]) [],
  .text "\x7d\n"]

def endpointImpl : List Node := [
  header, .text "\n/**\n * SOAP implementation of ", slot "class_name", .text " for service ",
  slot "service_name", .text ".\n */\npublic class ", slot "impl_class_name",
  .text " implements ", slot "class_name",
  .text " \x7b\n\n  public static final String DEFAULT_ENDPOINT = \"", slot "default_url",
  .text "\";\n\n  private final String endpoint;\n\n  public ", slot "impl_class_name",
  .text "() \x7b\n    this(DEFAULT_ENDPOINT);\n  \x7d\n\n  public ", slot "impl_class_name",
  .text ("(String endpoint) \x7b\n    this.endpoint = endpoint;\n  \x7d\n\n" ++
    "  public String getEndpoint() \x7b\n    return this.endpoint;\n  \x7d\n"),
  .each "op" (.name "operations") none ([.text "\n  public "] ++ signature ++ [
    .text " \x7b\n    throw new UnsupportedOperationException(\"", part "op" "operation_name",
    .text " is dispatched by the client runtime\"",
    .branch (.member (.name "op") "request_bean") [
      .text " + \" via ", part "op" "request_bean", .text "\""],
    .text ");\n  \x7d\n"]) [],
  .text "\x7d\n"]

/-- The exception of a fault. -/
def webFault : List Node := [
  header, .text "\n/**\n * Fault ", braced (.name "namespace") (.name "element_name"),
  .text ", carried by ", slot "bean", .branch (.name "implicit") [.text " (generated)"],
  .text ".\n */\npublic class ", slot "class_name",
  .text " extends Exception \x7b\n\n  private final ", slot "bean",
  .text " faultInfo;\n\n  public ", slot "class_name", .text "(String message, ", slot "bean",
  .text (" faultInfo) \x7b\n    super(message);\n    this.faultInfo = faultInfo;\n  \x7d\n\n" ++
    "  public "), slot "bean",
  .text " getFaultInfo() \x7b\n    return this.faultInfo;\n  \x7d\n\x7d\n"]

/-! ### Types -/

/-- A choice of values as a class with constants. -/
def legacyEnumType : List Node := [
  header, .text "\n/**\n * Enumeration ", slot "identifier",
  .text " as a constant class.\n */\npublic final class ", slot "class_name", .text " \x7b\n",
  .each "value" (.name "values") none [
    .text "  public static final ", slot "class_name", .text " ", .print (.upper (.name "value")),
    .text " = new ", slot "class_name", .text "(\"", slot "value", .text "\");\n"] [],
  .text "\n  private final String value;\n\n  private ", slot "class_name",
  .text ("(String value) \x7b\n    this.value = value;\n  \x7d\n\n" ++
    "  public String toString() \x7b\n    return this.value;\n  \x7d\n\x7d\n")]

/-- A choice of values as an enumeration. -/
def modernEnumType : List Node := [
  header, .text "\n/**\n * Enumeration ", slot "identifier", .text ".\n */\npublic enum ",
  slot "class_name", .text " \x7b\n",
  .each "value" (.name "values") none [
    .text "  ", .print (.upper (.name "value")), .text "(\"", slot "value", .text "\")",
    separated "," ";", .text newline] [.text "  ;\n"],
  .text "\n  private final String value;\n\n  ", slot "class_name",
  .text ("(String value) \x7b\n    this.value = value;\n  \x7d\n\n" ++
    "  public String value() \x7b\n    return this.value;\n  \x7d\n\x7d\n")]

/-- The base of a single value, or the class of texts. -/
def baseOrText : Node := .print (.either (.name "base") (.text "java.lang.String"))

/-- A single value as a class. -/
def simpleType : List Node := [
  header, .text "\n/**\n * Simple type ", slot "identifier", .text ".\n */\npublic class ",
  slot "class_name", .text " \x7b\n\n  private ", baseOrText, .text " value;\n\n  public ",
  baseOrText, .text " getValue() \x7b\n    return this.value;\n  \x7d\n\n  public void setValue(",
  baseOrText, .text " value) \x7b\n    this.value = value;\n  \x7d\n\x7d\n"]

/-- A record of members as a class. -/
def complexType : List Node := [
  header, .text "\n/**\n * ", slot "identifier",
  .branch (.name "root_element") [.text ", root element ", rootElement],
  .text ".\n */\npublic ",
  .print (.choose (.name "abstract") (.text "abstract ") (.text "")), .text "class ",
  slot "class_name", .branch (.name "base") [.text " extends ", slot "base"], .text " \x7b\n\n",
  properties (.name "members"), .text "\n\x7d\n"]

/-- All templates by name; the last one holds the shared pieces and nothing else. -/
def shipped : List (String × List Node) := [
  ("request-bean", requestBean), ("response-bean", responseBean), ("fault-bean", faultBean),
  ("enum-type-binding", enumTypeBinding), ("simple-type-binding", simpleTypeBinding),
  ("complex-type-binding", complexTypeBinding), ("endpoint-interface", endpointInterface),
  ("endpoint-impl", endpointImpl), ("web-fault", webFault), ("legacy-enum-type", legacyEnumType),
  ("modern-enum-type", modernEnumType), ("simple-type", simpleType), ("complex-type", complexType),
  ("_macros", [.text newline])]

end SoapStubs.Template
