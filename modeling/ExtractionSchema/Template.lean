import ExtractionSchema.Failure
import ExtractionSchema.Field

namespace ExtractionSchema

inductive Template where
  | custom | invoice | receipt | businessCard
  deriving DecidableEq,Repr

namespace Template

def all : List Template := [.custom,.invoice,.receipt,.businessCard]

def key : Template → String
  | .custom => "custom"
  | .invoice => "invoice"
  | .receipt => "receipt"
  | .businessCard => "business_card"

def title : Template → String
  | .custom => "Custom Schema"
  | .invoice => "Invoice Template"
  | .receipt => "Receipt Template"
  | .businessCard => "Business Card Template"

def ofKey? (key : Text) : Option Template := all.find? fun template => (template.key : Text) == key

-- A template by any JSON value. What cannot be looked up at all is a misuse.
def find (key : Json) : Except Failure Template :=
  match key with
  | .str name =>
    match ofKey? name with
    | some template => .ok template
    | none => .error (.template key)
  | _ => if key.isScalar then .error (.template key) else .error (.misuse (.notAKey key.kind))

def described (name : Text) (required : Bool) (description : Text) : Attributes :=
  ⟨name,required,some description,[]⟩

def text (name : Text) (required : Bool) (description : Text) : Field :=
  .string (described name required description) none

def formatted (format : Format) (name : Text) (required : Bool) (description : Text) : Field :=
  .string (described name required description) (some format)

def amount (name : Text) (required : Bool) (description : Text) : Field :=
  .number (described name required description)

def listOf (name description : Text) (properties : List Field) : Field :=
  .array (described name false description) (some (.object ⟨"item",true,none,[]⟩ properties))

def invoiceFields : FieldTree := [
  text "invoice_number" true
    "The unique identifier of the invoice, usually located at the top and prefixed with \"Invoice #\" or \"INV-\"",
  formatted .date "date" true "The invoice date, often in MM/DD/YYYY format near the top",
  formatted .date "due_date" false "The date payment is due",
  text "vendor_name" true "The name of the company or person who issued the invoice",
  amount "total_amount" true "The total payment amount including taxes and fees",
  amount "subtotal" false "The amount before taxes and additional fees",
  amount "tax_amount" false "The tax amount, often labeled as Tax, GST, VAT, etc.",
  listOf "line_items" "List of products or services in the invoice" [
    text "description" true "Description of the product or service",
    amount "quantity" true "Number of items",
    amount "unit_price" true "Price per unit",
    amount "amount" true "Total cost (quantity × unit price)"]]

def receiptFields : FieldTree := [
  text "merchant_name" true "The name of the business",
  formatted .date "date" true "The date of purchase",
  text "time" false "The time of purchase",
  amount "total" true "The total amount paid",
  text "payment_method" false "How the purchase was paid for (credit, cash, etc.)",
  listOf "items" "Items purchased" [
    text "name" true "Name of the item",
    amount "price" true "Price of the item",
    amount "quantity" false "Quantity purchased"]]

def businessCardFields : FieldTree := [
  text "full_name" true "The person's full name",
  text "title" false "The person's job title",
  text "company" false "Company or organization name",
  formatted .email "email" false "Email address",
  formatted .phone "phone" false "Phone number",
  formatted .address "address" false "Physical address",
  text "website" false "Website URL"]

def fields : Template → FieldTree
  | .custom => []
  | .invoice => invoiceFields
  | .receipt => receiptFields
  | .businessCard => businessCardFields

end Template

def FieldTree.starter : FieldTree := [
  Template.text "invoice_number" true "The invoice number (e.g., INV-12345)",
  Template.formatted .date "date" true "The invoice date",
  Template.text "vendor_name" true "The name of the company or person who issued the invoice",
  Template.amount "total_amount" true "The total payment amount",
  Template.amount "tax_amount" false "The tax amount"]

namespace FieldTree

def newcomers (taken : List Text) : FieldTree → FieldTree
  | [] => []
  | field :: rest =>
    if taken.contains field.name then newcomers taken rest
    else field :: newcomers (field.name :: taken) rest

-- The first field of each name stays; the names of the current tree are all taken.
def merge (current incoming : FieldTree) : FieldTree :=
  current ++ newcomers (current.map (·.name)) incoming

def resolve (current : FieldTree) (key : Json) (merging : Bool) : Except Failure FieldTree :=
  match Template.find key with
  | .error failure => .error failure
  | .ok .custom => .ok current
  | .ok template => .ok (if merging then current.merge template.fields else template.fields)

end FieldTree

end ExtractionSchema
