/-! # The packaged workflow

The workflow that executes an assembled notebook and renders it, in the language of the job
engine. It is used where no other source is configured. -/
namespace RunReports.Workflow

def packagedLines : List String := [
  "version 1.0",
  "",
  "# Executes an assembled report notebook and renders it to HTML.",
  "",
  "workflow generate_report_file_workflow \x7b",
  "    input \x7b",
  "        File notebook_template",
  "        String docker",
  "        Int? cpu",
  "        String? memory",
  "        String? disks",
  "        Int? maxRetries",
  "        Boolean? continueOnReturnCode",
  "        Boolean? failOnStdErr",
  "        Int? preemptible",
  "        Int? bootDiskSizeGb",
  "    \x7d",
  "",
  "    call generate_report_file \x7b",
  "        input:",
  "            notebook_template = notebook_template,",
  "            docker = docker,",
  "            cpu = cpu,",
  "            memory = memory,",
  "            disks = disks,",
  "            maxRetries = maxRetries,",
  "            continueOnReturnCode = continueOnReturnCode,",
  "            failOnStdErr = failOnStdErr,",
  "            preemptible = preemptible,",
  "            bootDiskSizeGb = bootDiskSizeGb",
  "    \x7d",
  "",
  "    output \x7b",
  "        File populated_notebook = generate_report_file.populated_notebook",
  "        File html_report = generate_report_file.html_report",
  "    \x7d",
  "\x7d",
  "",
  "task generate_report_file \x7b",
  "    input \x7b",
  "        File notebook_template",
  "        String docker",
  "        Int? cpu",
  "        String? memory",
  "        String? disks",
  "        Int? maxRetries",
  "        Boolean? continueOnReturnCode",
  "        Boolean? failOnStdErr",
  "        Int? preemptible",
  "        Int? bootDiskSizeGb",
  "    \x7d",
  "",
  "    command <<<",
  "        set -e",
  "        mkdir -p report",
  "        cp ~\x7bnotebook_template\x7d report/report.ipynb",
  "        cd report",
  "        jupyter nbconvert --to notebook --execute --ExecutePreprocessor.timeout=-1 --inplace report.ipynb",
  "        jupyter nbconvert --to html report.ipynb",
  "    >>>",
  "",
  "    runtime \x7b",
  "        docker: docker",
  "        cpu: select_first([cpu, 1])",
  "        memory: select_first([memory, \"4 GiB\"])",
  "        disks: select_first([disks, \"local-disk 10 HDD\"])",
  "        maxRetries: select_first([maxRetries, 0])",
  "        continueOnReturnCode: select_first([continueOnReturnCode, false])",
  "        failOnStdErr: select_first([failOnStdErr, false])",
  "        preemptible: select_first([preemptible, 0])",
  "        bootDiskSizeGb: select_first([bootDiskSizeGb, 10])",
  "    \x7d",
  "",
  "    output \x7b",
  "        File populated_notebook = \"report/report.ipynb\"",
  "        File html_report = \"report/report.html\"",
  "    \x7d",
  "\x7d"]

def packagedSource : String := String.join (packagedLines.map fun line => line ++ "\n")

end RunReports.Workflow
