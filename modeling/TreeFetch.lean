import TreeFetch.Unicode.CharSet
import TreeFetch.Unicode.GeneralCategory
import TreeFetch.Unicode.Script
import TreeFetch.Unicode.Property
import TreeFetch.Unicode.CaseFolding
import TreeFetch.Unicode.Lookup
import TreeFetch.Regex.Pattern
import TreeFetch.Log
import TreeFetch.Time
import TreeFetch.PathText
import TreeFetch.Destination
import TreeFetch.Template
import TreeFetch.Transformer
import TreeFetch.Storage.Search
import TreeFetch.Storage.Catalogue
import TreeFetch.Plan
import TreeFetch.Fetch
import TreeFetch.FileSystem.Change
import TreeFetch.FileSystem.Canonical
import TreeFetch.Storage.Local
import TreeFetch.Yaml.Node
import TreeFetch.Config.File
import TreeFetch.Program
import TreeFetch.Main
import TreeFetch.Proofs.Storage.Unheard
import TreeFetch.Proofs.Storage.Ways
import TreeFetch.Proofs.Fetch.Containment
import TreeFetch.Proofs.Storage.Listing
import TreeFetch.Proofs.Storage.Found
import TreeFetch.Proofs.Storage.LocalWalk
import TreeFetch.Proofs.Fetch.Exclusion
import TreeFetch.Proofs.Fetch.Integrity
import TreeFetch.Proofs.Fetch.Stages
import TreeFetch.Proofs.Fetch.Preview
import TreeFetch.Proofs.Fetch.Saved
import TreeFetch.Proofs.Fetch.Mirror
import TreeFetch.Proofs.Storage.Complete
import TreeFetch.Proofs.Storage.Contents
import TreeFetch.Proofs.Fetch.Repetition
import TreeFetch.Proofs.FileSystem.Canonical
import TreeFetch.Proofs.FileSystem.Elsewhere
import TreeFetch.Proofs.Storage.Unchanged
import TreeFetch.Proofs.Storage.Barren
import TreeFetch.Proofs.Fetch.SamePlan
import TreeFetch.Proofs.Storage.Requests
import TreeFetch.Proofs.Storage.Heard
import TreeFetch.Proofs.Storage.Termination
import TreeFetch.Proofs.Storage.Preorder
import TreeFetch.Proofs.Storage.ResultLimit
import TreeFetch.Proofs.Storage.Placement
import TreeFetch.Proofs.Template
import TreeFetch.Proofs.Unicode.Alphabetic
import TreeFetch.Proofs.Regex.GroupNames
import TreeFetch.Proofs.Template.Names
import TreeFetch.Proofs.Template.Sensitivity
import TreeFetch.Proofs.Transformer
import TreeFetch.Proofs.Transformer.Undeclared
import TreeFetch.Proofs.Transformer.Creation
import TreeFetch.Proofs.Destination
import TreeFetch.Proofs.Fetch.Requests
import TreeFetch.Proofs.Fetch.Failures
import TreeFetch.Proofs.Fetch.Receipts
import TreeFetch.Proofs.Fetch.Accounts
import TreeFetch.Proofs.Fetch.Heard
import TreeFetch.Proofs.Program.LogFile
import TreeFetch.Proofs.Program.Exit
import TreeFetch.Proofs.FileSystem.Child
import TreeFetch.Proofs.Storage.Spelling
import TreeFetch.Proofs.Storage.Children
import TreeFetch.Proofs.Storage.FolderIds
import TreeFetch.Proofs.FileSystem.Parents
import TreeFetch.Proofs.Storage.Transfer
import TreeFetch.Proofs.CommandLine.Arguments
import TreeFetch.Proofs.CommandLine.Override
import TreeFetch.Proofs.Plan
import TreeFetch.Proofs.Storage.Enumeration
import TreeFetch.Proofs.Storage.Subfolder
import TreeFetch.Proofs.Storage.Parallel
